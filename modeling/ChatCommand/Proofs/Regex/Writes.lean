import ChatCommand.Pattern
import ChatCommand.Proofs.Regex.ReadingInv

/-!
# What a text adds to a pattern

`Reader.Writes cs f names`: wherever the flags are the initial ones and no bracket or comment is
open, reading `cs` changes the scope by `f` and opens groups of the names `names`, or it fails
because one of the names is taken. Texts that write something can be put one after another
(`Writes.append`) and into groups (`Writes.fence`, `Writes.named`), and a pattern of its own can be
put into a group unless it leaves a comment open (`Writes.fragment`).
-/

namespace ChatCommand.Regex

/-- The item as an element of its own group. -/
def Item.grouped (i : Item) : Item :=
  { build := fun _ => i.regex
    emptyOnly := i.emptyOnly
    depth := i.depth + 1
    room := i.room + 64 }

namespace Reader

/-- The state once it is known that no question mark and no opening brace follows. -/
def ready (r : Reader) : Reader :=
  match r.mode with
  | .repeated i b _ => r.pushRepeated i b true
  | .edge => r.enter .plain
  | _ => r

/-- The next element can start here, under the initial flags. -/
structure Calm (r : Reader) : Prop where
  flags : r.flags = {}
  inComment : r.inComment = false
  brackets : r.brackets = []
  mode : r.ready.mode = .plain

/-- The state with another scope and further names. -/
def put (r : Reader) (f : Scope → Scope) (names : List String) : Reader :=
  { r with scope := f r.scope, names := names.reverse ++ r.names }

/-- Reading `cs` changes the scope by `f` and opens groups of the names `names`, in this order, or
it fails because a name is taken. -/
def Writes (cs : List Char) (f : Scope → Scope) (names : List String) : Prop :=
  ∀ r : Reader, r.Calm →
    (∃ r', r.readAll cs = .ok r' ∧ r'.Calm ∧ r'.ready = r.ready.put f names) ∨
    r.readAll cs = .error .malformed ∧ ¬ (names.reverse ++ r.names).Nodup

/-- Like `Writes`, and behind `cs` nothing is left that could still be continued. -/
def WritesWhole (cs : List Char) (f : Scope → Scope) (names : List String) : Prop :=
  ∀ r : Reader, r.Calm →
    r.readAll cs = .ok (r.ready.put f names) ∨
    r.readAll cs = .error .malformed ∧ ¬ (names.reverse ++ r.names).Nodup

/-! ## The state that is ready -/

section
variable (r : Reader)

@[simp] theorem ready_flags : r.ready.flags = r.flags := by unfold ready; split <;> rfl

@[simp] theorem ready_outer : r.ready.outer = r.outer := by unfold ready; split <;> rfl

@[simp] theorem ready_names : r.ready.names = r.names := by unfold ready; split <;> rfl

@[simp] theorem ready_brackets : r.ready.brackets = r.brackets := by unfold ready; split <;> rfl

@[simp] theorem ready_inComment : r.ready.inComment = r.inComment := by
  unfold ready; split <;> rfl

theorem ready_within (o : List Scope) (n : List String) :
    (r.within o n).ready = r.ready.within o n := by
  unfold ready
  rw [within_mode]
  split <;> rfl

end

theorem ready_eq_self {r : Reader} (h : r.mode = .plain) : r.ready = r := by
  simp only [ready, h]

theorem Calm.of_plain {r : Reader} (hf : r.flags = {}) (hc : r.inComment = false)
    (hb : r.brackets = []) (hm : r.mode = .plain) : r.Calm :=
  ⟨hf, hc, hb, by rw [ready_eq_self hm, hm]⟩

@[simp] theorem put_scope (r : Reader) (f : Scope → Scope) (n : List String) :
    (r.put f n).scope = f r.scope := rfl

@[simp] theorem put_outer (r : Reader) (f : Scope → Scope) (n : List String) :
    (r.put f n).outer = r.outer := rfl

theorem Calm.settled {r : Reader} (h : r.Calm) : r.ready.Calm :=
  .of_plain (by rw [ready_flags, h.flags]) (by rw [ready_inComment, h.inComment])
    (by rw [ready_brackets, h.brackets]) h.mode

theorem Calm.put {r : Reader} (h : r.Calm) (f : Scope → Scope) (n : List String) :
    (r.ready.put f n).Calm :=
  .of_plain h.settled.flags h.settled.inComment h.settled.brackets h.mode

theorem Calm.ready_put {r : Reader} (h : r.Calm) (f : Scope → Scope) (n : List String) :
    (r.ready.put f n).ready = r.ready.put f n :=
  ready_eq_self (r := r.ready.put f n) h.mode

theorem finish_eq_ok {r : Reader} {i : Item} :
    r.finish = .ok i ↔ r.outer = [] ∧ r.ready.mode = .plain ∧ i = r.ready.scope.body := by
  unfold finish ready
  cases ho : r.outer with
  | cons s o => simp
  | nil => cases hm : r.mode <;> simp [pushRepeated, push, enter, hm, eq_comm]

theorem not_inBrackets_of_ready {r : Reader} (h : r.ready.mode = .plain) :
    r.mode.inBrackets = false := by
  unfold ready at h
  split at h
  · simp [*, Mode.inBrackets]
  · simp [*, Mode.inBrackets]
  · simp [h, Mode.inBrackets]

/-- A character at a place where the next element can start. -/
theorem step_ready {r : Reader} {c : Char} (hc : r.inComment = false)
    (hm : r.ready.mode = .plain) (hq : c ≠ '?') (hb : c ≠ '\x7b')
    (hv : r.flags.verbose = false ∨ Text.isBlank c = false ∧ c ≠ '#') :
    r.step c = r.ready.readPlain c := by
  have hs : r.settle c = r.ready := by
    unfold ready at hm ⊢
    unfold settle
    cases h : r.mode with
    | plain => rfl
    | repeated i b blanks =>
      have hcond : (c == '?' || (blanks && r.flags.verbose && (Text.isBlank c || c == '#'))) =
          false := by
        rcases hv with hv | ⟨hv, hv'⟩
        · simp [hq, hv]
        · simp [hq, hv, hv']
      simp only [hcond, Bool.false_eq_true, ↓reduceIte]
    | edge => simp [hb]
    | _ => simp [h] at hm
  have hread : r.ready.read c = r.ready.readPlain c := by simp only [read, hm]
  rw [step_outside c (not_inBrackets_of_ready hm)]
  unfold advance
  simp only [hc, hs, hread, Bool.false_eq_true, ↓reduceIte]
  rcases hv with hv | ⟨hv, hv'⟩
  · simp [hv]
  · simp [hv, hv']

theorem Calm.step {r : Reader} (h : r.Calm) {c : Char} (hq : c ≠ '?') (hb : c ≠ '\x7b') :
    r.step c = r.ready.readPlain c :=
  step_ready h.inComment h.mode hq hb (.inl (by rw [h.flags]))

/-! ## Texts one after another -/

theorem put_put (r : Reader) (f g : Scope → Scope) (m n : List String) :
    (r.put f m).put g n = r.put (g ∘ f) (m ++ n) := by
  simp [put, List.append_assoc]

theorem Writes.nil : Writes [] id [] :=
  fun r hr => .inl ⟨r, rfl, hr, rfl⟩

theorem Writes.congr {cs : List Char} {f g : Scope → Scope} {n : List String} (h : Writes cs f n)
    (hfg : ∀ s, f s = g s) : Writes cs g n := by
  obtain rfl : f = g := funext hfg
  exact h

theorem Writes.append {cs ds : List Char} {f g : Scope → Scope} {m n : List String}
    (h₁ : Writes cs f m) (h₂ : Writes ds g n) : Writes (cs ++ ds) (g ∘ f) (m ++ n) := by
  intro r hr
  rw [readAll_append]
  rcases h₁ r hr with ⟨r₁, he, hc, hs⟩ | ⟨he, hn⟩
  · rw [he]
    have hnames : r₁.names = m.reverse ++ r.names := by
      rw [← ready_names, hs]
      simp [put]
    rcases h₂ r₁ hc with ⟨r₂, he₂, hc₂, hs₂⟩ | ⟨he₂, hn⟩
    · exact .inl ⟨r₂, he₂, hc₂, by rw [hs₂, hs, put_put]⟩
    · refine .inr ⟨he₂, ?_⟩
      rwa [List.reverse_append, List.append_assoc, ← hnames]
  · refine .inr ⟨by rw [he]; rfl, fun h => hn ?_⟩
    rw [List.reverse_append, List.append_assoc] at h
    exact (List.nodup_append.1 h).2.1

theorem WritesWhole.writes {cs : List Char} {f : Scope → Scope} {n : List String}
    (h : WritesWhole cs f n) : Writes cs f n :=
  fun r hr => (h r hr).imp_left fun he => ⟨_, he, hr.put f n, hr.ready_put f n⟩

/-! ## Single elements -/

/-- A character that is read where an element can start. -/
theorem WritesWhole.plain {c : Char} {f : Scope → Scope} (hq : c ≠ '?') (hb : c ≠ '\x7b')
    (h : ∀ r : Reader, r.flags = {} → r.mode = .plain → r.readPlain c = .ok (r.put f [])) :
    WritesWhole [c] f [] := by
  intro r hr
  refine .inl ?_
  rw [readAll_cons, hr.step hq hb, h r.ready (by rw [ready_flags, hr.flags]) hr.mode]
  rfl

/-- A character in a mode that it does not complete. -/
theorem Calm.step_enter {r : Reader} (h : r.Calm) {m : Mode} {c : Char}
    (hm : m.inBrackets = false) (hs : (r.ready.enter m).settle c = r.ready.enter m) :
    (r.ready.enter m).step c = (r.ready.enter m).read c := by
  have hc : (r.ready.enter m).inComment = false := h.settled.inComment
  have hf : (r.ready.enter m).flags = {} := h.settled.flags
  rw [step_outside c hm]
  unfold advance
  simp [hc, hs, hf]

/-- A backslash with a letter or sign behind it. -/
theorem readAll_escape {r : Reader} (h : r.Calm) {c : Char} {i : Item}
    (he : ∀ r : Reader, r.flags = {} → r.readEscape .outside c = .ok (r.push i)) :
    r.readAll ['\\', c] = .ok (r.ready.put (·.push i) []) := by
  have hstep : (r.ready.enter (.escape .outside)).step c = .ok (r.ready.push i) := by
    rw [h.step_enter rfl rfl]
    exact he (r.ready.enter (.escape .outside)) h.settled.flags
  have hplain : r.ready.push i = r.ready.put (·.push i) [] := by
    rw [put, h.mode]
    rfl
  rw [readAll_cons, h.step (by decide) (by decide)]
  change (r.ready.enter (.escape .outside)).step c >>= _ = _
  rw [hstep, hplain]
  rfl

theorem WritesWhole.escape {c : Char} {i : Item}
    (h : ∀ r : Reader, r.flags = {} → r.readEscape .outside c = .ok (r.push i)) :
    WritesWhole ['\\', c] (·.push i) [] :=
  fun _ hr => .inl (readAll_escape hr h)

theorem writes_char {c : Char} (h : Pattern.isMeta c = false) :
    WritesWhole [c] (·.push (.char (.single c))) [] := by
  have hne : ∀ d : Char, Pattern.isMeta d = true → c ≠ d := by
    rintro d hd rfl
    rw [h] at hd
    cases hd
  refine .plain (hne _ (by decide)) (hne _ (by decide)) fun r hf hm => ?_
  unfold readPlain
  split
  all_goals try exact absurd rfl (hne _ (by decide))
  rw [hf]
  obtain ⟨flags, scope, outer, names, mode, brackets, inComment⟩ := r
  cases hm
  rfl

theorem writes_meta {c : Char} (h : Pattern.isMeta c = true) :
    WritesWhole ['\\', c] (·.push (.char (.single c))) [] := by
  refine .escape fun r hf => ?_
  have hmem : c ∈ ['\\', '.', '+', '*', '?', '(', ')', '|', '[', ']', '\x7b', '\x7d', '^', '$',
      '#', '&', '-', '~'] := by
    simpa [Pattern.isMeta] using h
  obtain ⟨flags, scope, outer, names, mode, brackets, inComment⟩ := r
  cases hf
  simp only [List.mem_cons, List.not_mem_nil, or_false] at hmem
  rcases hmem with rfl | rfl | rfl | rfl | rfl | rfl | rfl | rfl | rfl | rfl | rfl | rfl | rfl |
    rfl | rfl | rfl | rfl | rfl <;> rfl

theorem writes_blank : WritesWhole ['\\', 's'] (·.push (.char .blank)) [] := by
  refine .escape fun r hf => ?_
  obtain ⟨flags, scope, outer, names, mode, brackets, inComment⟩ := r
  cases hf
  rfl

theorem writes_textEnd : WritesWhole ['\\', 'z'] (·.push (.look .textEnd)) [] := by
  refine .escape fun r hf => ?_
  obtain ⟨flags, scope, outer, names, mode, brackets, inComment⟩ := r
  cases hf
  rfl

/-- The bar behind an alternative. -/
theorem writes_bar : WritesWhole ['|'] Scope.endBranch [] := by
  refine .plain (by decide) (by decide) fun r _ _ => ?_
  obtain ⟨flags, scope, outer, names, mode, brackets, inComment⟩ := r
  rfl

theorem readEscape_edge {r : Reader} (hf : r.flags = {}) :
    r.readEscape .outside 'b' = .ok ((r.push (.look (.edge .either .word))).enter .edge) := by
  obtain ⟨flags, scope, outer, names, mode, brackets, inComment⟩ := r
  cases hf
  rfl

/-- No place is a word border and none. -/
theorem writes_nowhere : Writes ['\\', 'b', '\\', 'B']
    (fun s => (s.push (.look (.edge .either .word))).push (.look (.edge .neither .word))) [] := by
  have hB : WritesWhole ['\\', 'B'] (·.push (.look (.edge .neither .word))) [] := by
    refine .escape fun r hf => ?_
    obtain ⟨flags, scope, outer, names, mode, brackets, inComment⟩ := r
    cases hf
    rfl
  have hb : Writes ['\\', 'b'] (·.push (.look (.edge .either .word))) [] := by
    intro r hr
    refine .inl ⟨(r.ready.push (.look (.edge .either .word))).enter .edge, ?_, ?_, ?_⟩
    · rw [readAll_cons, hr.step (by decide) (by decide)]
      change (r.ready.enter (.escape .outside)).readAll ['b'] = _
      rw [readAll_cons, hr.step_enter rfl rfl]
      change (r.ready.enter (.escape .outside)).readEscape .outside 'b' >>= _ = _
      rw [readEscape_edge (r := r.ready.enter (.escape .outside)) hr.settled.flags]
      rfl
    · exact ⟨hr.settled.flags, hr.settled.inComment, hr.settled.brackets, rfl⟩
    · rw [put, hr.mode]
      rfl
  exact hb.append hB.writes

/-! ## Groups -/

/-- The state at the start of a group, where groups of the names `m` were opened. -/
def inside (r : Reader) (name : Option String) (m : List String) : Reader :=
  { r.ready with
    names := m, outer := r.ready.scope :: r.ready.outer, scope := { name }, mode := .plain }

theorem Calm.inside {r : Reader} (h : r.Calm) (name : Option String) (m : List String) :
    (r.inside name m).Calm :=
  .of_plain h.settled.flags h.settled.inComment h.settled.brackets rfl

theorem Calm.openGroup {r : Reader} (h : r.Calm) (name : Option String) (m : List String) :
    ({ r.ready with names := m } : Reader).openGroup name {} = r.inside name m := by
  have hf : r.ready.flags = {} := h.settled.flags
  simp only [Reader.openGroup, Reader.inside, hf]

theorem Calm.step_close {r : Reader} (h : r.Calm) {s : Scope} {o : List Scope}
    (ho : r.outer = s :: o) (hf : r.ready.scope.outerFlags = {}) :
    r.step ')' = .ok { r.ready with outer := o, scope := s.push r.ready.scope.close } := by
  have hflags : r.ready.flags = {} := h.settled.flags
  have hmode : r.ready.mode = .plain := h.mode
  rw [h.step (by decide) (by decide)]
  change r.ready.closeGroup = _
  simp only [closeGroup, ready_outer, ho, hf, ← hflags, ← hmode]

/-- A group is read up to its end. -/
theorem readAll_inside {r : Reader} (h : r.Calm) {name : Option String} {m : List String}
    {cs : List Char} {f : Scope → Scope} {n : List String} (hw : Writes cs f n)
    (hf : (f { name }).outerFlags = {}) :
    (r.inside name m).readAll (cs ++ [')']) =
        .ok (({ r.ready with names := m } : Reader).put (·.push (f { name }).close) n) ∨
      (r.inside name m).readAll (cs ++ [')']) = .error .malformed ∧ ¬ (n.reverse ++ m).Nodup := by
  have hplain : r.ready.mode = .plain := h.mode
  rw [readAll_append]
  rcases hw _ (h.inside name m) with ⟨q, he, hq, hs⟩ | ⟨he, hn⟩
  · rw [ready_eq_self (r := r.inside name m) rfl] at hs
    have ho : q.outer = r.ready.scope :: r.ready.outer := by rw [← ready_outer, hs]; rfl
    rw [he]
    refine .inl ?_
    change q.step ')' >>= _ = _
    rw [hq.step_close ho (by rw [hs]; exact hf), hs]
    simp only [put, inside, ← hplain]
    rfl
  · exact .inr ⟨by rw [he]; rfl, hn⟩

/-- The head of a group without a name is read. -/
theorem readAll_open {r : Reader} (h : r.Calm) (cs : List Char) :
    r.readAll (['(', '?', ':'] ++ cs) = (r.inside none r.names).readAll cs := by
  simp only [List.cons_append, List.nil_append]
  rw [readAll_cons, h.step (by decide) (by decide)]
  change (r.ready.enter .groupStart).readAll _ = _
  rw [readAll_cons, h.step_enter rfl rfl]
  change (r.ready.enter .groupMark).readAll _ = _
  rw [readAll_cons, h.step_enter rfl rfl]
  change (r.ready.openGroup none r.ready.flags).readAll _ = _
  rw [h.settled.flags, ← h.openGroup, ← ready_names]

theorem readAll_fence {r : Reader} (h : r.Calm) (cs : List Char) :
    r.readAll (Pattern.fence cs) = (r.inside none r.names).readAll (cs ++ [')']) := by
  rw [Pattern.fence, List.append_assoc, readAll_open h]

/-- What is fenced becomes one element. -/
theorem WritesWhole.fence {cs : List Char} {f : Scope → Scope} {n : List String}
    (h : Writes cs f n) (hf : (f {}).outerFlags = {}) :
    WritesWhole (Pattern.fence cs) (·.push (f {}).close) n := by
  intro r hr
  rw [readAll_fence hr]
  have := readAll_inside hr (m := r.names) h hf
  rwa [show ({ r.ready with names := r.names } : Reader) = r.ready by rw [← ready_names]] at this

/-! ## Groups with a name -/

/-- A group can have that name. -/
def IsName (name : String) : Prop :=
  ∃ c cs, name.toList = c :: cs ∧ opensName c = true ∧ ∀ d ∈ cs, inName d = true

theorem ne_close_of_inName {c : Char} (h : inName c = true) : (c == '>') = false := by
  rw [beq_eq_false_iff_ne]
  rintro rfl
  revert h
  decide

theorem ne_close_of_opensName {c : Char} (h : opensName c = true) : (c == '>') = false := by
  rw [beq_eq_false_iff_ne]
  rintro rfl
  revert h
  decide

theorem readAll_inName {r : Reader} (h : r.Calm) {text : List Char} (ht : text ≠ [])
    {cs : List Char} (hcs : ∀ d ∈ cs, inName d = true) :
    (r.ready.enter (.name text)).readAll cs =
      .ok (r.ready.enter (.name (cs.reverse ++ text))) := by
  induction cs generalizing text with
  | nil => rfl
  | cons c cs ih =>
    have hc : inName c = true := hcs c List.mem_cons_self
    have hempty : text.isEmpty = false := by simpa using ht
    have hread : (r.ready.enter (.name text)).read c = .ok (r.ready.enter (.name (c :: text))) := by
      change (r.ready.enter (.name text)).readName text c = _
      simp only [readName, ne_close_of_inName hc, hempty, hc, Bool.false_eq_true, ↓reduceIte]
      rfl
    rw [readAll_cons, h.step_enter rfl rfl, hread]
    change (r.ready.enter (.name (c :: text))).readAll cs = _
    rw [ih (by simp) fun d hd => hcs d (List.mem_cons_of_mem _ hd)]
    simp

theorem readAll_name {r : Reader} (h : r.Calm) {name : String} (hn : IsName name) :
    (r.ready.enter (.name [])).readAll name.toList =
      .ok (r.ready.enter (.name name.toList.reverse)) := by
  obtain ⟨c, cs, hname, hc, hcs⟩ := hn
  have hread : (r.ready.enter (.name [])).read c = .ok (r.ready.enter (.name [c])) := by
    change (r.ready.enter (.name [])).readName [] c = _
    simp only [readName, ne_close_of_opensName hc, List.isEmpty_nil, hc, Bool.false_eq_true,
      ↓reduceIte]
    rfl
  rw [hname, readAll_cons, h.step_enter rfl rfl, hread]
  change (r.ready.enter (.name [c])).readAll cs = _
  rw [readAll_inName h (by simp) hcs]
  simp

/-- The head of a group with a name is read, unless the name is taken. -/
theorem readAll_named {r : Reader} (h : r.Calm) {name : String} (hn : IsName name)
    (cs : List Char) :
    r.readAll (['(', '?', 'P', '<'] ++ name.toList ++ ['>'] ++ cs) =
      if name ∈ r.names then .error .malformed
      else (r.inside (some name) (name :: r.names)).readAll cs := by
  have hempty : name.toList.reverse.isEmpty = false := by
    obtain ⟨c, cs, hname, -⟩ := hn
    simp [hname]
  have hread : (r.ready.enter (.name name.toList.reverse)).read '>' =
      if name ∈ r.names then .error .malformed
      else .ok (r.inside (some name) (name :: r.names)) := by
    change (r.ready.enter (.name name.toList.reverse)).readName name.toList.reverse '>' = _
    have hnames : (r.ready.enter (.name name.toList.reverse)).names = r.names := ready_names r
    simp only [readName, beq_self_eq_true, ↓reduceIte, List.reverse_reverse, String.ofList_toList,
      hempty, Bool.false_or, List.contains_eq_mem, decide_eq_true_eq, hnames]
    rw [← h.openGroup, ← h.settled.flags]
    rfl
  simp only [List.cons_append, List.nil_append, List.append_assoc]
  rw [readAll_cons, h.step (by decide) (by decide)]
  change (r.ready.enter .groupStart).readAll _ = _
  rw [readAll_cons, h.step_enter rfl rfl]
  change (r.ready.enter .groupMark).readAll _ = _
  rw [readAll_cons, h.step_enter rfl rfl]
  change (r.ready.enter .groupNamed).readAll _ = _
  rw [readAll_cons, h.step_enter rfl rfl]
  change (r.ready.enter (.name [])).readAll _ = _
  rw [readAll_append, readAll_name h hn]
  change (r.ready.enter (.name name.toList.reverse)).readAll _ = _
  rw [readAll_cons, h.step_enter rfl rfl, hread]
  split <;> rfl

/-- What is put into a group with a name becomes one element. -/
theorem WritesWhole.named {cs : List Char} {f : Scope → Scope} {n : List String} {name : String}
    (h : Writes cs f n) (hn : IsName name) (hf : (f { name := some name }).outerFlags = {}) :
    WritesWhole (['(', '?', 'P', '<'] ++ name.toList ++ ['>'] ++ cs ++ [')'])
      (·.push (f { name := some name }).close) (name :: n) := by
  intro r hr
  rw [List.append_assoc _ cs, readAll_named hr hn]
  by_cases htaken : name ∈ r.names
  · refine .inr ⟨if_pos htaken, fun hnodup => ?_⟩
    simp [List.nodup_append, htaken] at hnodup
  · rw [if_neg htaken]
    have := readAll_inside hr (m := name :: r.names) h hf
    simpa [put] using this

/-! ## Optional elements -/

theorem step_plain {r : Reader} {c : Char} (hc : r.inComment = false) (hf : r.flags = {})
    (hm : r.mode = .plain) : r.step c = r.readPlain c := by
  rw [step_outside c (by rw [hm]; rfl)]
  unfold advance settle read
  simp [hc, hf, hm]

/-- A question mark makes the element before it optional. -/
theorem Writes.optional {cs : List Char} {i : Item} {n : List String}
    (h : WritesWhole cs (·.push i) n) (hi : i.repeatable = true) :
    Writes (cs ++ ['?']) (·.push (i.repeated ⟨0, some 1⟩ true)) n := by
  intro r hr
  have hflags : r.ready.flags = {} := hr.settled.flags
  have hplain : r.ready.mode = .plain := hr.mode
  rw [readAll_append]
  rcases h r hr with he | ⟨he, hn⟩
  · have hq := hr.put (·.push i) n
    have hstep : (r.ready.put (·.push i) n).step '?' =
        .ok { r.ready.put id n with mode := .repeated i ⟨0, some 1⟩ false } := by
      rw [step_plain hq.inComment hq.flags hplain]
      change (r.ready.put (·.push i) n).repeatLast _ = _
      simp only [repeatLast, put, Scope.push, hi, ↓reduceIte, id_eq]
    refine .inl ⟨{ r.ready.put id n with mode := .repeated i ⟨0, some 1⟩ false }, ?_, ?_, ?_⟩
    · rw [he]
      change (r.ready.put (·.push i) n).step '?' >>= _ = _
      rw [hstep]
      rfl
    · exact ⟨hr.settled.flags, hr.settled.inComment, hr.settled.brackets, rfl⟩
    · change ({ r.ready.put id n with mode := .repeated i ⟨0, some 1⟩ false } : Reader).pushRepeated
        i ⟨0, some 1⟩ true = _
      simp only [pushRepeated, push, put, hplain, hflags, id_eq]
      rfl
  · exact .inr ⟨by rw [he]; rfl, hn⟩

/-! ## Patterns of their own -/

theorem ready_scope_name (r : Reader) : r.ready.scope.name = r.scope.name := by
  unfold ready; split <;> rfl

theorem ready_scope_outerFlags (r : Reader) :
    r.ready.scope.outerFlags = r.scope.outerFlags := by
  unfold ready; split <;> rfl

theorem Calm.inside_eq_within {r : Reader} (h : r.Calm) :
    r.inside none r.names = ({} : Reader).within (r.ready.scope :: r.ready.outer) r.names := by
  have hf : r.ready.flags = {} := h.settled.flags
  have hc : r.ready.inComment = false := h.settled.inComment
  have hb : r.ready.brackets = [] := h.settled.brackets
  simp only [Reader.inside, within, hf, hc, hb, List.nil_append]

/-- A fenced pattern that leaves no comment open is read as it is alone: not even the flags that it
switches have an effect behind the fence. -/
theorem WritesWhole.fragment {cs : List Char} {q : Reader} {i : Item}
    (hq : ({} : Reader).readAll cs = .ok q) (hi : q.finish = .ok i) (hc : q.inComment = false) :
    WritesWhole (Pattern.fence cs) (·.push i.grouped) q.names.reverse := by
  intro r hr
  have htidy : ({} : Reader).Tidy := fun _ => rfl
  obtain ⟨ho, hm, rfl⟩ := finish_eq_ok.1 hi
  have hs := readAll_leads cs htidy q hq
  have hroot : (q.scope.name, q.scope.outerFlags) = ((none, {}) : Option String × Flags) := by
    have := hs.root
    simpa [root, ho] using this
  obtain ⟨hname, hflags⟩ := Prod.mk.inj hroot
  have hb : q.brackets = [] := hs.tidy (not_inBrackets_of_ready hm)
  rw [readAll_fence hr, readAll_append, hr.inside_eq_within]
  rcases readAll_carried htidy (r.ready.scope :: r.ready.outer) r.names cs q hq with
    he | ⟨he, m, hm, hm'⟩
  · refine .inl ?_
    rw [he]
    change (q.within _ _).step ')' >>= _ = _
    have hstep := step_ready (r := q.within (r.ready.scope :: r.ready.outer) r.names) (c := ')') hc
      (by rw [ready_within]; exact hm) (by decide) (by decide) (.inr ⟨by decide, by decide⟩)
    have hclose : q.ready.scope.close = q.ready.scope.body.grouped := by
      simp only [Scope.close, ready_scope_name, hname, Item.grouped]
    rw [hstep, ready_within]
    change (q.ready.within _ _).closeGroup >>= _ = _
    simp only [closeGroup, within, ready_outer, ho, List.nil_append, hclose,
      ready_scope_outerFlags, hflags, put, ready_names, ready_brackets, hb, ready_inComment, hc,
      List.reverse_reverse, ready_flags, hr.flags, hr.brackets, hr.inComment, hr.mode]
    rfl
  · refine .inr ⟨by rw [he]; rfl, fun hnodup => ?_⟩
    rw [List.reverse_reverse] at hnodup
    exact (List.nodup_append.1 hnodup).2.2 m hm m hm' rfl

end Reader

end ChatCommand.Regex
