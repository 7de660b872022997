import ChatCommand.Proofs.Regex.Ways

/-!
# The lockstep search finds the leftmost match

`find_eq_leftmost`: `Regex.find` is `leftmost` of the backtracking reading `ways`. The search runs
all threads in step and drops a thread whose continuation is known already, so the proof has to show
that dropping never loses the preferred match.

`follow` is the backtracking reading of a continuation and `Thread.outcome` what a thread ends in.
Whether there is an outcome depends on the continuation alone (`outcome_isSome_congr`). The
invariant of `visit` is `Frontier.Sound`: if a continuation that is done with has an outcome, then
the frontier has one already. `visit_adds` says what one thread adds to a frontier, `search_eq` what
the run over the rest of the text adds to the threads so far.
-/

namespace ChatCommand.Regex

/-! ## Continuations -/

/-- The cursors at which matches of a continuation can end. `moved` says that something has been
consumed since the frames were set up, `opened` where the captures start that are open. -/
def follow : (moved : Bool) → List Frame → (opened : List Nat) → Cursor → List Cursor
  | _, [], _, s => [s]
  | m, .run r :: k, o, s => (ways r s).flatMap fun q => follow (m || q.movedFrom s) k o q
  | m, .close name :: k, o, s => follow m k (o.drop 1) (s.note name (o.headD s.pos))
  | m, .again greedy r p :: k, o, s =>
    match if m then .moved else p with
    | .first => follow m k o s
    | .stalled => []
    | .moved =>
      (iterate greedy (ways r) s).flatMap fun q => follow (m || q.movedFrom s) k o q

/-- What a thread ends in that stands between `before` and `cs`. -/
def Thread.outcome (t : Thread) (before : Option Char) (pos : Nat) (cs : List Char) :
    Option Found :=
  (follow false t.rest t.trail.opened
    { before, pos, rest := cs, spans := t.trail.spans }).head?.map (·.found t.trail.start)

/-- What the threads of a frontier end in that are behind the next character. -/
def Frontier.ahead (w : Frontier) (pos : Nat) : List Char → Option Found
  | [] => none
  | c :: cs => w.passed.reverse.findSome? (·.outcome (some c) (pos + 1) cs)

/-- What the threads of a frontier end in, one that matches here last. -/
def Frontier.value (w : Frontier) (pos : Nat) (cs : List Char) : Option Found :=
  (w.ahead pos cs).or w.found

/-- If a continuation that is done with has an outcome, then the frontier has one. -/
def Frontier.Sound (w : Frontier) (before : Option Char) (pos : Nat) (cs : List Char) : Prop :=
  ∀ fs ∈ w.seen, ∀ t, ((Thread.mk fs t).outcome before pos cs).isSome → (w.value pos cs).isSome

theorem movedFrom_trans {s q u : Cursor} {v w : List Char} (h₁ : q.Behind s v)
    (h₂ : u.Behind q w) : u.movedFrom s = (q.movedFrom s || u.movedFrom q) := by
  rw [(h₁.trans h₂).movedFrom, h₁.movedFrom, h₂.movedFrom]
  cases v <;> simp

theorem movedFrom_ways {r : Regex} {s q u : Cursor} {w : List Char} (h₁ : q ∈ ways r s)
    (h₂ : u.Behind q w) : u.movedFrom s = (q.movedFrom s || u.movedFrom q) := by
  obtain ⟨v, hv, -⟩ := ways_behind h₁
  exact movedFrom_trans hv h₂

theorem iterate_ways_behind {greedy : Bool} {r : Regex} {s u : Cursor}
    (h : u ∈ iterate greedy (ways r) s) : ∃ w, u.Behind s w :=
  iterate_behind (fun _ _ h => (ways_behind h).imp fun _ h => h.1) s u h

/-- Behind a character all frames have moved. -/
theorem follow_map_moved (m : Bool) (fs : List Frame) (o : List Nat) (s : Cursor) :
    follow m (fs.map Frame.moved) o s = follow true fs o s := by
  induction fs generalizing m o s with
  | nil => rfl
  | cons f k ih =>
    cases f with
    | run r => simp only [List.map_cons, Frame.moved, follow, ih, Bool.true_or]
    | close name => simp only [List.map_cons, Frame.moved, follow, ih]
    | again greedy r p =>
      have h : (if m then Progress.moved else Progress.moved) = .moved := by cases m <;> rfl
      simp only [List.map_cons, Frame.moved, follow, h, ih, Bool.true_or, ↓reduceIte]

theorem follow_run_seq (m : Bool) (n : Nat) (r t : Regex) (k : List Frame) (o : List Nat)
    (s : Cursor) :
    follow m (.run (.seq n r t) :: k) o s = follow m (.run r :: .run t :: k) o s := by
  simp only [follow, ways, List.flatMap_assoc]
  refine List.flatMap_congr fun q hq => List.flatMap_congr fun u hu => ?_
  obtain ⟨w, hw, -⟩ := ways_behind hu
  rw [movedFrom_ways hq hw, Bool.or_assoc]

theorem follow_run_capture (m : Bool) (name : String) (r : Regex) (k : List Frame) (o : List Nat)
    (s : Cursor) :
    follow m (.run (.capture name r) :: k) o s =
      follow m (.run r :: .close name :: k) (s.pos :: o) s := by
  simp only [follow, ways, List.flatMap_map]
  rfl

theorem follow_run_plus (greedy : Bool) (r : Regex) (k : List Frame) (o : List Nat) (s : Cursor) :
    follow false (.run (.plus greedy r) :: k) o s =
      follow false (.run r :: .again greedy r .first :: k) o s := by
  simp only [follow, ways, List.flatMap_assoc, Bool.false_or]
  refine List.flatMap_congr fun q hq => ?_
  cases hm : q.movedFrom s with
  | false => simp [hm]
  | true =>
    simp only [↓reduceIte, Bool.true_or]
    refine List.flatMap_congr fun u hu => ?_
    obtain ⟨w, hw⟩ := iterate_ways_behind hu
    rw [movedFrom_ways hq hw, hm, Bool.true_or]

/-- The further iterations of a loop, as a run of its body that must consume something. -/
theorem follow_further (greedy : Bool) (r : Regex) (k : List Frame) (o : List Nat) (s : Cursor) :
    (((ways r s).flatMap fun q => if q.movedFrom s then iterate greedy (ways r) q else []).flatMap
      fun q => follow (q.movedFrom s) k o q) =
    follow false (.run r :: .again greedy r .stalled :: k) o s := by
  simp only [follow, List.flatMap_assoc, Bool.false_or]
  refine List.flatMap_congr fun q hq => ?_
  cases hm : q.movedFrom s with
  | false => simp
  | true =>
    simp only [↓reduceIte, Bool.true_or]
    refine List.flatMap_congr fun u hu => ?_
    obtain ⟨w, hw⟩ := iterate_ways_behind hu
    rw [movedFrom_ways hq hw, hm, Bool.true_or]

theorem follow_again_greedy (r : Regex) (k : List Frame) (o : List Nat) (s : Cursor) :
    follow false (.again true r .moved :: k) o s =
      follow false (.run r :: .again true r .stalled :: k) o s ++ follow false k o s := by
  rw [← follow_further]
  simp only [follow, Bool.false_or, Bool.false_eq_true, ↓reduceIte]
  rw [iterate_eq, if_pos rfl, List.flatMap_append, List.flatMap_singleton, Cursor.movedFrom_self]

theorem follow_again_lazy (r : Regex) (k : List Frame) (o : List Nat) (s : Cursor) :
    follow false (.again false r .moved :: k) o s =
      follow false k o s ++ follow false (.run r :: .again false r .stalled :: k) o s := by
  rw [← follow_further]
  simp only [follow, Bool.false_or, Bool.false_eq_true, ↓reduceIte]
  rw [iterate_eq, if_neg Bool.false_ne_true, List.flatMap_cons, Cursor.movedFrom_self]

/-! ## Outcomes do not depend on captures -/

/-- The cursors are at the same place. -/
def SamePlace (s q : Cursor) : Prop :=
  s.before = q.before ∧ s.pos = q.pos ∧ s.rest = q.rest

theorem SamePlace.movedFrom {s s' q q' : Cursor} (hs : SamePlace s s') (hq : SamePlace q q') :
    q.movedFrom s = q'.movedFrom s' := by
  simp only [Cursor.movedFrom, hs.2.2, hq.2.2]

theorem SamePlace.note {s q : Cursor} (h : SamePlace s q) (n n' : String) (i j : Nat) :
    SamePlace (s.note n i) (q.note n' j) := h

theorem exists_carry (s : Cursor) :
    ∃ s₀ : Cursor, s₀.spans = [] ∧ s = s₀.carry s.spans :=
  ⟨{ s with spans := [] }, rfl, rfl⟩

/-- A reading that ignores captures leads from one place to the same places. -/
theorem forall₂_of_carry {f : Cursor → List Cursor}
    (hf : ∀ s old, f (s.carry old) = (f s).map (·.carry old)) {s s' : Cursor}
    (h : SamePlace s s') : List.Forall₂ SamePlace (f s) (f s') := by
  obtain ⟨s₀, h₀, hs⟩ := exists_carry s
  have hs' : s' = s₀.carry s'.spans := by
    obtain ⟨hb, hp, hr⟩ := h
    cases s; cases s'; cases s₀
    simp only [Cursor.carry, Cursor.mk.injEq] at hs hb hp hr h₀ ⊢
    obtain ⟨rfl, rfl, rfl, -⟩ := hs
    subst hb hp hr h₀
    exact ⟨rfl, rfl, rfl, rfl⟩
  rw [hs, hs', hf, hf, List.forall₂_map_left_iff, List.forall₂_map_right_iff]
  exact List.forall₂_same.2 fun _ _ => ⟨rfl, rfl, rfl⟩

theorem follow_samePlace {m : Bool} {fs : List Frame} {o o' : List Nat} {s s' : Cursor}
    (h : SamePlace s s') : List.Forall₂ SamePlace (follow m fs o s) (follow m fs o' s') := by
  induction fs generalizing m o o' s s' with
  | nil => exact .cons h .nil
  | cons f k ih =>
    cases f with
    | run r =>
      refine List.rel_flatMap (forall₂_of_carry (ways_carry r) h) fun q q' hq => ?_
      rw [h.movedFrom hq]
      exact ih hq
    | close name => exact ih (h.note _ _ _ _)
    | again greedy r p =>
      simp only [follow]
      split
      · exact ih h
      · exact .nil
      · refine List.rel_flatMap
          (forall₂_of_carry (fun s old => iterate_carry (ways_carry r · old) s) h)
          fun q q' hq => ?_
        rw [h.movedFrom hq]
        exact ih hq

/-- Whether there is an outcome depends on the continuation alone. -/
theorem outcome_isSome_congr (fs : List Frame) (t t' : Trail) (before : Option Char) (pos : Nat)
    (cs : List Char) :
    ((Thread.mk fs t).outcome before pos cs).isSome =
      ((Thread.mk fs t').outcome before pos cs).isSome := by
  have hplace : SamePlace { before, pos, rest := cs, spans := t.spans }
      { before, pos, rest := cs, spans := t'.spans } := ⟨rfl, rfl, rfl⟩
  have hends : List.Forall₂ SamePlace
      (follow false fs t.opened { before, pos, rest := cs, spans := t.spans })
      (follow false fs t'.opened { before, pos, rest := cs, spans := t'.spans }) :=
    follow_samePlace hplace
  have h := hends.length_eq
  simp only [Thread.outcome, Option.isSome_map]
  rw [Bool.eq_iff_iff, List.isSome_head?, List.isSome_head?, ← List.length_pos_iff,
    ← List.length_pos_iff, h]

/-! ## One position -/

theorem outcome_congr {fs gs : List Frame} {t : Trail} {before : Option Char} {pos : Nat}
    {cs : List Char}
    (h : follow false fs t.opened { before, pos, rest := cs, spans := t.spans } =
      follow false gs t.opened { before, pos, rest := cs, spans := t.spans }) :
    (Thread.mk fs t).outcome before pos cs = (Thread.mk gs t).outcome before pos cs := by
  simp only [Thread.outcome, h]

theorem outcome_append {fs gs ks : List Frame} {t : Trail} {before : Option Char} {pos : Nat}
    {cs : List Char}
    (h : follow false fs t.opened { before, pos, rest := cs, spans := t.spans } =
      follow false gs t.opened { before, pos, rest := cs, spans := t.spans } ++
        follow false ks t.opened { before, pos, rest := cs, spans := t.spans }) :
    (Thread.mk fs t).outcome before pos cs =
      ((Thread.mk gs t).outcome before pos cs).or ((Thread.mk ks t).outcome before pos cs) := by
  simp only [Thread.outcome, h, List.head?_append, Option.map_or]

theorem outcome_eq_none {fs : List Frame} {t : Trail} {before : Option Char} {pos : Nat}
    {cs : List Char}
    (h : follow false fs t.opened { before, pos, rest := cs, spans := t.spans } = []) :
    (Thread.mk fs t).outcome before pos cs = none := by
  simp only [Thread.outcome, h, List.head?_nil, Option.map_none]

theorem same_iff {r s : Regex} : r.same s = true ↔ r = s := by
  simp [same, withPtrEq]

theorem frame_same_iff {f g : Frame} : f.same g = true ↔ f = g := by
  cases f <;> cases g <;> simp [Frame.same, same_iff, and_left_comm, and_comm]

theorem sameFrames_iff {fs gs : List Frame} : sameFrames fs gs = true ↔ fs = gs := by
  induction fs generalizing gs with
  | nil => cases gs <;> simp [sameFrames]
  | cons f fs ih => cases gs <;> simp [sameFrames, frame_same_iff, ih]

theorem knows_iff {w : Frontier} {fs : List Frame} : w.knows fs = true ↔ fs ∈ w.seen := by
  simp [Frontier.knows, sameFrames_iff]

theorem value_isSome_of_found {w : Frontier} (h : w.found.isSome) (pos : Nat) (cs : List Char) :
    (w.value pos cs).isSome := by
  simp [Frontier.value, h]

theorem or_eq_left {α : Type} {a b : Option α} (h : b.isSome → a.isSome) : a.or b = a := by
  cases a with
  | some a => rfl
  | none => cases b with
    | none => rfl
    | some b => simp at h

@[simp] theorem value_mark (w : Frontier) (fs : List Frame) (pos : Nat) (cs : List Char) :
    (w.mark fs).value pos cs = w.value pos cs := rfl

section
variable {pos : Nat} {before : Option Char} {cs : List Char}

/-- What `visit` has to do with a thread: the outcome comes behind those that are there. -/
def Adds (pos : Nat) (before : Option Char) (cs : List Char) (w w' : Frontier)
    (x : Option Found) : Prop :=
  w.Sound before pos cs →
    w'.Sound before pos cs ∧ w'.value pos cs = (w.value pos cs).or x

theorem Adds.trans {w w' w'' : Frontier} {x y : Option Found}
    (h₁ : Adds pos before cs w w' x) (h₂ : Adds pos before cs w' w'' y) :
    Adds pos before cs w w'' (x.or y) := by
  intro hw
  obtain ⟨hs, hv⟩ := h₁ hw
  obtain ⟨hs', hv'⟩ := h₂ hs
  exact ⟨hs', by rw [hv', hv, Option.or_assoc]⟩

theorem Adds.nothing {w : Frontier} {x : Option Found}
    (h : w.Sound before pos cs → x.isSome → (w.value pos cs).isSome) :
    Adds pos before cs w w x :=
  fun hw => ⟨hw, (or_eq_left (h hw)).symm⟩

/-- A continuation is done with once its threads have been added. -/
theorem Adds.mark {w w' : Frontier} {fs : List Frame} {t : Trail}
    (h : Adds pos before cs w w' ((Thread.mk fs t).outcome before pos cs)) :
    Adds pos before cs w (w'.mark fs) ((Thread.mk fs t).outcome before pos cs) := by
  intro hw
  obtain ⟨hs, hv⟩ := h hw
  refine ⟨fun gs hgs t' ht' => ?_, hv⟩
  rcases List.mem_cons.1 hgs with rfl | hgs
  · rw [value_mark, hv, Option.isSome_or, outcome_isSome_congr gs t t', ht', Bool.or_true]
  · exact hs gs hgs t' ht'

/-- The outcome of a thread that has been noted without a mark. -/
theorem Adds.of_value {w w' : Frontier} {x : Option Found} (hseen : w'.seen = w.seen)
    (hv : w'.value pos cs = (w.value pos cs).or x) : Adds pos before cs w w' x := by
  refine fun hw => ⟨fun fs hfs t ht => ?_, hv⟩
  rw [hv, Option.isSome_or, hw fs (hseen ▸ hfs) t ht, Bool.true_or]

theorem Adds.known {w : Frontier} {fs : List Frame} {t : Trail} (h : w.knows fs = true) :
    Adds pos before cs w w ((Thread.mk fs t).outcome before pos cs) :=
  .nothing fun hw => hw fs (knows_iff.1 h) t

theorem Adds.congr {w w' : Frontier} {fs gs : List Frame} {t : Trail}
    (h : Adds pos before cs w w' ((Thread.mk gs t).outcome before pos cs))
    (hf : follow false fs t.opened { before, pos, rest := cs, spans := t.spans } =
      follow false gs t.opened { before, pos, rest := cs, spans := t.spans }) :
    Adds pos before cs w w' ((Thread.mk fs t).outcome before pos cs) := by
  rwa [outcome_congr hf]

/-- A thread that consumes the next character waits behind it. -/
theorem Adds.pass {w : Frontier} {set : CharSet} {k : List Frame} {t : Trail} {c : Char}
    {cs' : List Char} (hf : ¬ w.found.isSome = true) (hc : set.mem c = true) :
    Adds pos before (c :: cs') w
      { w with passed := { rest := k.map Frame.moved, trail := t } :: w.passed }
      ((Thread.mk (.run (.char set) :: k) t).outcome before pos (c :: cs')) := by
  refine .of_value rfl ?_
  have hw : w.found = none := by simpa using hf
  have hout : (Thread.mk (.run (.char set) :: k) t).outcome before pos (c :: cs') =
      (Thread.mk (k.map Frame.moved) t).outcome (some c) (pos + 1) cs' := by
    simp [Thread.outcome, follow, ways, hc, follow_map_moved, Cursor.movedFrom, Cursor.next]
  simp [Frontier.value, Frontier.ahead, hw, hout]

theorem ways_branches (r : Regex) (s : Cursor) :
    ways r s = (branches r).flatMap (ways · s) := by
  induction r with
  | alt r t ihr iht => rw [ways, branches, List.flatMap_append, ihr, iht]
  | _ => simp [branches]

theorem outcome_branches (r : Regex) (k : List Frame) (t : Trail) :
    (Thread.mk (.run r :: k) t).outcome before pos cs =
      (branches r).attach.findSome? fun b =>
        (Thread.mk (.run b.1 :: k) t).outcome before pos cs := by
  have h : ∀ f : Regex → Option Found,
      (branches r).attach.findSome? (fun b => f b.1) = (branches r).findSome? f := fun f => by
    rw [← Function.comp_def f, ← List.findSome?_map, List.attach_map_subtype_val]
  rw [h fun b => (Thread.mk (.run b :: k) t).outcome before pos cs]
  simp only [Thread.outcome, follow]
  rw [ways_branches, List.flatMap_assoc, List.head?_flatMap, List.map_findSome?]
  rfl

theorem Adds.foldl {α : Type} {step : Frontier → α → Frontier} {x : α → Option Found}
    (h : ∀ w a, Adds pos before cs w (step w a) (x a)) (w : Frontier) (as : List α) :
    Adds pos before cs w (as.foldl step w) (as.findSome? x) := by
  induction as generalizing w with
  | nil => exact .nothing fun _ hx => by simp at hx
  | cons a as ih =>
    have hx : (a :: as).findSome? x = (x a).or (as.findSome? x) := by
      rw [List.findSome?_cons]
      cases x a <;> rfl
    rw [hx]
    exact (h w a).trans (ih _)

/-- A thread adds its outcome behind those that are there. -/
theorem visit_adds (w : Frontier) (fs : List Frame) (t : Trail) :
    Adds pos before cs w (visit pos before cs.head? w fs t)
      ((Thread.mk fs t).outcome before pos cs) := by
  induction w, fs, t using visit.induct pos before cs.head? with
  | case1 w fs t hf =>
    rw [visit.eq_def, if_pos hf]
    exact .nothing fun _ _ => value_isSome_of_found hf pos cs
  | case2 w t hf =>
    rw [visit, if_neg hf]
    refine .of_value rfl ?_
    have hw : w.found = none := by simpa using hf
    simp only [Frontier.value, hw, Option.or_none]
    cases cs <;> rfl
  | case3 w t hf name k ih =>
    rw [visit, if_neg hf]
    exact ih
  | case4 w t hf greedy r k ih =>
    rw [visit, if_neg hf]
    exact ih
  | case5 w t hf greedy r k =>
    rw [visit, if_neg hf]
    exact .nothing fun _ hx => by simp [outcome_eq_none, follow] at hx
  | case6 w t hf greedy r k hk =>
    rw [visit, if_neg hf, if_pos hk]
    exact .known hk
  | case7 w t hf r k hk w' ih ih' =>
    rw [visit, if_neg hf, if_neg hk, if_pos rfl]
    refine .mark ?_
    rw [outcome_append (follow_again_greedy r k _ _)]
    exact ih.trans ih'
  | case8 w t hf greedy r k hk hg w' ih ih' =>
    obtain rfl : greedy = false := by simpa using hg
    rw [visit, if_neg hf, if_neg hk, if_neg hg]
    refine .mark ?_
    rw [outcome_append (follow_again_lazy r k _ _)]
    exact ih.trans ih'
  | case9 w t hf k ih =>
    rw [visit, if_neg hf]
    exact ih.congr (by simp [follow, ways])
  | case10 w t hf k set hc =>
    rw [visit, if_neg hf]
    simp only [hc, ↓reduceIte]
    simp only [Bool.and_eq_true, Bool.not_eq_true'] at hc
    cases cs with
    | nil => simp at hc
    | cons c cs => exact .mark (.pass hf (by simpa using hc.1))
  | case11 w t hf k set hc =>
    rw [visit, if_neg hf]
    simp only [hc, Bool.false_eq_true, ↓reduceIte]
    by_cases hk : w.knows (.run (.char set) :: k) = true
    · exact .known hk
    · refine .nothing fun _ hx => ?_
      cases cs with
      | nil => simp [Thread.outcome, follow, ways] at hx
      | cons c cs =>
        have hc' : set.mem c = false := by simpa [hk] using hc
        simp [Thread.outcome, follow, ways, hc'] at hx
  | case12 w t hf k a ha ih =>
    rw [visit, if_neg hf]
    simp only [ha, ↓reduceIte]
    exact ih.congr (by simp [follow, ways, ha])
  | case13 w t hf k a ha =>
    rw [visit, if_neg hf]
    simp only [ha, Bool.false_eq_true, ↓reduceIte]
    exact .nothing fun _ hx => by simp [Thread.outcome, follow, ways, ha] at hx
  | case14 w t hf k name r ih =>
    rw [visit, if_neg hf]
    have h : (Thread.mk (.run (.capture name r) :: k) t).outcome before pos cs =
        (Thread.mk (.run r :: .close name :: k) (t.enter pos)).outcome before pos cs := by
      simp only [Thread.outcome, follow_run_capture]
      rfl
    rwa [h]
  | case15 w t hf k size r s ih =>
    rw [visit, if_neg hf]
    exact ih.congr (follow_run_seq _ _ _ _ _ _ _)
  | case16 w t hf k r s hk =>
    rw [visit, if_neg hf]
    simp only [hk, ↓reduceIte]
    exact .known hk
  | case17 w t hf k r s hk ih =>
    rw [visit, if_neg hf]
    simp only [hk, Bool.false_eq_true, ↓reduceIte]
    refine .mark ?_
    rw [outcome_branches]
    exact .foldl ih w _
  | case18 w t hf k greedy r ih =>
    rw [visit, if_neg hf]
    exact ih.congr (follow_run_plus _ _ _ _ _)

end

/-! ## The whole text -/

theorem visitAll_value (pos : Nat) (before : Option Char) (cs : List Char) (ts : List Thread) :
    (visitAll pos before cs.head? ts).value pos cs =
      ts.findSome? (·.outcome before pos cs) := by
  have h : Adds pos before cs {} (visitAll pos before cs.head? ts)
      (ts.findSome? (·.outcome before pos cs)) :=
    .foldl (fun w t => visit_adds w t.rest t.trail) {} ts
  have h₀ : ({} : Frontier).value pos cs = none := by cases cs <;> rfl
  have hv := (h fun fs hfs => by simp at hfs).2
  rwa [h₀, Option.none_or] at hv

/-- The threads at a place, the one that starts here included, end in what the old threads end in
or, if no match is known, in a match that starts here. -/
theorem started_outcome {r : Regex} {starts : Nat} {cs : List Char}
    (hs : cs.length + 1 ≤ starts + r.minLength) (pos : Nat) (before : Option Char)
    (ts : List Thread) (best x : Option Found) :
    ((started r pos starts ts best).findSome? (·.outcome before pos cs)).or (best.or x) =
      (ts.findSome? (·.outcome before pos cs)).or
        (best.or (((ways r { before, pos, rest := cs }).head?.map (·.found pos)).or x)) := by
  have hnew : (Thread.mk [.run r] { start := pos }).outcome before pos cs =
      (ways r { before, pos, rest := cs }).head?.map (·.found pos) := by
    simp only [Thread.outcome, follow, List.flatMap_singleton']
  unfold started
  cases best with
  | some b => simp
  | none =>
    by_cases h0 : starts = 0
    · have hshort : ways r { before, pos, rest := cs } = [] :=
        ways_eq_nil_of_short (by simp only; omega)
      simp [h0, hshort]
    · simp [h0, List.findSome?_append, hnew, Option.or_assoc]

/-- A run over the rest of the text: the threads so far come first, then what was found before, then
the matches that start later. -/
theorem search_eq {r : Regex} {starts : Nat} {cs : List Char}
    (hs : cs.length + 1 ≤ starts + r.minLength) (pos : Nat) (before : Option Char)
    (ts : List Thread) (best : Option Found) :
    search r pos starts before ts best cs =
      (ts.findSome? (·.outcome before pos cs)).or
        (best.or (leftmost (ways r) before pos cs)) := by
  induction cs generalizing pos starts before ts best with
  | nil =>
    have hv := visitAll_value pos before [] (started r pos starts ts best)
    simp only [Frontier.value, Frontier.ahead, Option.none_or, List.head?_nil] at hv
    have hx := started_outcome hs pos before ts best none
    simp only [Option.or_none] at hx
    rw [search, Option.orElse_eq_orElse, Option.orElse_eq_or, hv, hx, leftmost]
  | cons c cs ih =>
    have hv := visitAll_value pos before (c :: cs) (started r pos starts ts best)
    have hx := started_outcome hs pos before ts best
      (leftmost (ways r) (some c) (pos + 1) cs)
    rw [List.head?_cons] at hv
    rw [search, leftmost, ← hx, ← hv]
    generalize visitAll pos before (some c) (started r pos starts ts best) = w
    simp only [Option.orElse_eq_orElse, Option.orElse_eq_or, Frontier.value, Frontier.ahead,
      Option.or_assoc]
    split
    · rename_i hb
      -- every thread in front of the match has died
      simp only [Bool.and_eq_true, List.isEmpty_iff] at hb
      rw [hb.2, List.reverse_nil, List.findSome?_nil, Option.none_or, ← Option.or_assoc,
        Option.or_of_isSome hb.1]
    · rw [ih (by simp only [List.length_cons] at hs; omega), Option.or_assoc]

/-- **The search finds the leftmost match**, and of the matches there the preferred one. -/
theorem findChars_eq_leftmost (r : Regex) (cs : List Char) :
    r.findChars cs = leftmost (ways r) none 0 cs := by
  rw [findChars, search_eq (by omega)]
  simp

theorem find_eq_leftmost (r : Regex) (text : String) :
    r.find text = leftmost (ways r) none 0 text.toList :=
  findChars_eq_leftmost r _

end ChatCommand.Regex
