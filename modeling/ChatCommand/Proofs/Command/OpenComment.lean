import ChatCommand.Proofs.Command.Report

/-!
# Comments that are left open

A custom pattern may switch to the mode with comments and end in one. In the matcher of a command
the comment goes on: `Command.hidden_of_leavesComment` says that all is passed over up to the next
line break, which lies in the format of a later argument. The group of the pattern is not closed
there, and the group of the argument behind it is not opened.
-/

namespace ChatCommand

open Regex

/-! ## Reading -/

namespace Regex

namespace Reader

/-- In a group, but not in brackets, a comment is open. In brackets a comment may still decide what
the dash in front of it means. -/
structure CommentOpen (r : Reader) : Prop where
  inComment : r.inComment = true
  outside : r.mode.inBrackets = false
  outer : r.outer ≠ []

/-- Within a line, nothing ends a comment. -/
theorem CommentOpen.readAll {r : Reader} (h : r.CommentOpen) {cs : List Char} (hcs : '\n' ∉ cs) :
    r.readAll cs = .ok r := by
  induction cs with
  | nil => rfl
  | cons c cs ih =>
    obtain ⟨hc, hcs⟩ := not_or.1 (mt List.mem_cons.2 hcs)
    have hstep : r.step c = .ok r := by
      have hline : (c != '\n') = true := by simpa using Ne.symm hc
      rw [step_outside c h.outside, advance, if_pos h.inComment, hline, ← h.inComment]
    rw [readAll_cons, hstep]
    exact ih hcs

theorem readAll_append_ok {r q : Reader} {as bs : List Char} (h : r.readAll (as ++ bs) = .ok q) :
    ∃ m, r.readAll as = .ok m ∧ m.readAll bs = .ok q := by
  rw [readAll_append] at h
  cases hm : r.readAll as with
  | error e =>
    rw [hm] at h
    cases h
  | ok m =>
    rw [hm] at h
    exact ⟨m, rfl, h⟩

theorem Writes.calm {cs : List Char} {f : Scope → Scope} {n : List String} (h : Writes cs f n)
    {r q : Reader} (hr : r.Calm) (hq : r.readAll cs = .ok q) : q.Calm := by
  rcases h r hr with ⟨q', he, hcalm, -⟩ | ⟨he, -⟩
  · rw [hq] at he
    exact Except.ok.inj he ▸ hcalm
  · rw [hq] at he
    cases he

/-- A comment that is open behind a pattern is open behind the pattern in its group. -/
theorem commentOpen_of_leavesComment {r q : Reader} (hr : r.Calm) {cs : List Char} {i : Item}
    (hi : readItem cs = .ok i) (hopen : leavesComment cs = true)
    (h : r.readAll (['(', '?', ':'] ++ cs) = .ok q) : q.CommentOpen := by
  obtain ⟨q', halone, hf⟩ := readItem_eq_ok.1 hi
  have hmode : q'.mode.inBrackets = false := not_inBrackets_of_ready (finish_eq_ok.1 hf).2.1
  rw [readAll_open hr, hr.inside_eq_within] at h
  simp only [leavesComment, halone] at hopen
  rcases readAll_carried (fun _ => rfl) (r.ready.scope :: r.ready.outer) r.names cs q' halone with
    he | ⟨he, -⟩
  · rw [h] at he
    obtain rfl := Except.ok.inj he
    exact ⟨hopen, hmode, by simp [within]⟩
  · rw [h] at he
    cases he

end Reader

/-- Up to the next line break, the text behind an open comment may as well be missing. -/
theorem readItem_hidden {front hidden rest : List Char} {q : Reader}
    (hq : Reader.readAll {} front = .ok q) (hc : q.CommentOpen) (hline : '\n' ∉ hidden) :
    readItem (front ++ (hidden ++ '\n' :: rest)) = readItem (front ++ '\n' :: rest) := by
  have hskip : q.readAll (hidden ++ '\n' :: rest) = q.readAll ('\n' :: rest) := by
    rw [Reader.readAll_append, hc.readAll hline]
    rfl
  unfold readItem
  rw [Reader.readAll_append, Reader.readAll_append, hq]
  exact congrArg (· >>= Reader.finish) hskip

/-- A group that a comment follows to the end is never closed. -/
theorem line_of_readItem {front back : List Char} {i : Item} {q : Reader}
    (hq : Reader.readAll {} front = .ok q) (hc : q.CommentOpen)
    (h : readItem (front ++ back) = .ok i) : '\n' ∈ back := by
  by_contra hline
  obtain ⟨r, hr, hf⟩ := readItem_eq_ok.1 h
  rw [Reader.readAll_append, hq] at hr
  obtain rfl := Except.ok.inj ((hc.readAll hline).symm.trans hr)
  exact hc.outer (Reader.finish_eq_ok.1 hf).1

end Regex

/-! ## The text of an argument -/

namespace Pattern

theorem charsAll_append (ps qs : List Pattern) :
    charsAll (ps ++ qs) = charsAll ps ++ charsAll qs := by
  induction ps with
  | nil => rfl
  | cons p ps ih => rw [List.cons_append, charsAll, charsAll, ih, List.append_assoc]

end Pattern

namespace Definition

/-- The syntax in front of the format of an argument: a blank, and the head of its group. -/
def opening (i : Nat) (a : Argument) : List Char :=
  (if a.optional then ['(', '?', ':'] else []) ++ ['\\', 's'] ++
    (['(', '?', 'P', '<'] ++ (captureName i).toList ++ ['>'])

/-- The syntax behind the format of an argument. -/
def closing (a : Argument) : List Char :=
  ')' :: if a.optional then [')', '?'] else []

theorem chars_argumentPattern (i : Nat) (a : Argument) :
    Pattern.charsAll (argumentPattern i a) =
      opening i a ++ a.format.toPattern.chars ++ closing a := by
  unfold argumentPattern opening closing
  split <;> simp [Pattern.charsAll, Pattern.chars, Pattern.fence]

theorem chars_argumentPatterns_append (i : Nat) (as bs : List Argument) :
    Pattern.charsAll (argumentPatterns i (as ++ bs)) =
      Pattern.charsAll (argumentPatterns i as) ++
        Pattern.charsAll (argumentPatterns (i + as.length) bs) := by
  induction as generalizing i with
  | nil => rfl
  | cons a as ih =>
    rw [List.cons_append, argumentPatterns, argumentPatterns, Pattern.charsAll_append, ih,
      Pattern.charsAll_append, List.append_assoc, List.length_cons, Nat.add_assoc,
      Nat.add_comm 1]

theorem line_not_mem_opening (i : Nat) (a : Argument) : '\n' ∉ opening i a := by
  have hname : '\n' ∉ (captureName i).toList := by
    obtain ⟨c, cs, hname, hc, hcs⟩ := isName_captureName i
    rw [hname, List.mem_cons, not_or]
    refine ⟨?_, fun h => ?_⟩
    · rintro rfl
      revert hc
      decide
    · have := hcs _ h
      revert this
      decide
  unfold opening
  split <;> simp [hname]

theorem line_not_mem_closing (a : Argument) : '\n' ∉ closing a := by
  unfold closing
  split <;> decide

/-- Between two elements, an argument can be opened, and its format can start. -/
theorem calm_of_opening {r q : Reader} (hr : r.Calm) {i : Nat} {a : Argument}
    (h : r.readAll (opening i a) = .ok q) : q.Calm ∧ q.outer ≠ [] := by
  obtain ⟨m, hm, h⟩ := Reader.readAll_append_ok h
  obtain ⟨k, hk, hblank⟩ := Reader.readAll_append_ok hm
  have hcalm : k.Calm := by
    split at hk
    · have hopen := Reader.readAll_open hr []
      rw [List.append_nil] at hopen
      rw [hopen] at hk
      obtain rfl := Except.ok.inj hk
      exact hr.inside none r.names
    · obtain rfl := Except.ok.inj hk
      exact hr
  have hcalm := Reader.writes_blank.writes.calm hcalm hblank
  have hnamed := Reader.readAll_named hcalm (isName_captureName i) []
  rw [List.append_nil, h] at hnamed
  split at hnamed
  · cases hnamed
  · obtain rfl := Except.ok.inj hnamed
    exact ⟨hcalm.inside _ _, by simp [Reader.inside]⟩

end Definition

namespace Command

variable {c : Command}

/-- The syntax in front of the custom pattern of `a`, where `front` are the arguments before it. -/
def before (c : Command) (front : List Argument) (a : Argument) : List Char :=
  Pattern.charsAll (.choice (c.names.map .literal) :: Definition.argumentPatterns 0 front) ++
    Definition.opening front.length a ++ ['(', '?', ':']

theorem source_eq {front back : List Argument} {a : Argument} {source : String}
    (hargs : c.arguments = front ++ a :: back) (hsource : a.format = .pattern source) :
    c.source.toList =
      c.before front a ++ source.toList ++ (')' :: Definition.closing a ++
        Pattern.charsAll (Definition.argumentPatterns (front.length + 1) back) ++ ['\\', 'z']) := by
  rw [Command.source, Pattern.source, String.toList_ofList, Definition.pattern_eq, hargs, before,
    Pattern.chars, Pattern.charsAll, Pattern.charsAll_append,
    Definition.chars_argumentPatterns_append, Definition.argumentPatterns,
    Pattern.charsAll_append, Definition.chars_argumentPattern, hsource]
  simp [Format.toPattern, Pattern.chars, Pattern.charsAll, Pattern.fence]

/-- The comment of the first pattern that leaves one open is open behind the pattern. -/
theorem commentOpen_before {front back : List Argument} {a : Argument} {source : String}
    (hargs : c.arguments = front ++ a :: back)
    (hfront : ∀ b ∈ front, b.format.leavesComment = false) (hsource : a.format = .pattern source)
    (hopen : Regex.leavesComment source.toList = true) {q : Reader}
    (hq : Reader.readAll {} (c.before front a ++ source.toList) = .ok q) : q.CommentOpen := by
  rw [before, List.append_assoc] at hq
  obtain ⟨m, hm, hq⟩ := Reader.readAll_append_ok hq
  obtain ⟨k, hk, hm⟩ := Reader.readAll_append_ok hm
  have hclosed : ∀ b ∈ front, b.format.Closed := fun b hb =>
    closed_of_mem (by rw [hargs]; exact List.mem_append_left _ hb) (hfront b hb)
  have hwrites : Pattern.Writable
      (Pattern.rawsAll (.choice (c.names.map .literal) :: Definition.argumentPatterns 0 front))
      (Pattern.capturesAll
        (.choice (c.names.map .literal) :: Definition.argumentPatterns 0 front)) := by
    have hnames := Pattern.lists_literals c.names
    have hargs := Definition.writable_argumentPatterns hclosed 0
    simpa [Pattern.rawsAll, Pattern.capturesAll, Pattern.raws, Pattern.captures, hnames.1,
      hnames.2.1] using hargs
  have hk : k.Calm := (Pattern.writesAll _ hwrites).calm (.of_plain rfl rfl rfl rfl) hk
  obtain ⟨_, hwell⟩ := c.wellFormed
  have hformat := hwell.formats a (by simp [hargs])
  rw [hsource] at hformat
  obtain ⟨r, hr⟩ := hformat.2
  obtain ⟨i, hi, -⟩ := parseChars_eq_ok.1 hr
  exact Reader.commentOpen_of_leavesComment (Definition.calm_of_opening hk hm).1 hi hopen hq

/-- If a command is accepted although a custom pattern leaves a comment open, the format of a later
argument has a line break. Up to there all is passed over, with the end of the group of the pattern
and the head of the next argument. -/
theorem hidden_of_leavesComment {front back : List Argument} {a : Argument} {source : String}
    (hargs : c.arguments = front ++ a :: back)
    (hfront : ∀ b ∈ front, b.format.leavesComment = false)
    (hsource : a.format = .pattern source) (hopen : Regex.leavesComment source.toList = true) :
    ∃ next later hidden rest, back = next :: later ∧ '\n' ∉ hidden ∧
      c.source.toList =
        c.before front a ++ source.toList ++ (')' :: Definition.closing a ++
          Definition.opening (front.length + 1) next ++ hidden ++ '\n' :: rest) ∧
      ∃ limit, parseChars (c.before front a ++ source.toList ++ '\n' :: rest) limit =
        .ok c.regex := by
  obtain ⟨limit, -, hcompile⟩ := c.check_and_compile
  replace hcompile : parseChars c.source.toList limit = .ok c.regex := by
    rw [Command.source, Pattern.source, String.toList_ofList]
    exact hcompile
  obtain ⟨i, hi, hdepth, hroom, hregex⟩ := parseChars_eq_ok.1 hcompile
  rw [source_eq hargs hsource] at hi ⊢
  obtain ⟨r, hr, -⟩ := readItem_eq_ok.1 hi
  obtain ⟨q, hq, -⟩ := Reader.readAll_append_ok hr
  have hcomment := commentOpen_before hargs hfront hsource hopen hq
  have hclosing : '\n' ∉ ')' :: Definition.closing a := fun h =>
    (List.mem_cons.1 h).elim (by decide) (Definition.line_not_mem_closing a)
  have hline := line_of_readItem hq hcomment hi
  rw [List.append_assoc] at hline
  replace hline := (List.mem_append.1 hline).resolve_left hclosing
  cases back with
  | nil => simp [Definition.argumentPatterns, Pattern.charsAll] at hline
  | cons next later =>
    have hopening := Definition.line_not_mem_opening (front.length + 1) next
    rw [Definition.argumentPatterns, Pattern.charsAll_append, Definition.chars_argumentPattern,
      List.append_assoc, List.append_assoc, List.append_assoc] at hline
    replace hline := (List.mem_append.1 hline).resolve_left hopening
    obtain ⟨hidden, rest, htail, hhidden⟩ := List.eq_append_cons_of_mem hline
    have hall : ')' :: Definition.closing a ++
        Pattern.charsAll (Definition.argumentPatterns (front.length + 1) (next :: later)) ++
          ['\\', 'z'] =
        ')' :: Definition.closing a ++ Definition.opening (front.length + 1) next ++ hidden ++
          '\n' :: rest := by
      rw [Definition.argumentPatterns, Pattern.charsAll_append, Definition.chars_argumentPattern]
      simp only [List.append_assoc, htail]
    refine ⟨next, later, hidden, rest, rfl, hhidden, by rw [hall], ?_⟩
    rw [hall, readItem_hidden hq hcomment] at hi
    · exact ⟨limit, parseChars_eq_ok.2 ⟨i, hi, hdepth, hroom, hregex⟩⟩
    · simp only [List.mem_append, not_or]
      exact ⟨⟨hclosing, hopening⟩, hhidden⟩

end Command

end ChatCommand
