import ChatCommand.Regex.Basic

/-!
# Matching

`Regex.find` is the leftmost match of an expression in a text, and of the matches at one place the
preferred one. All ways to match run in step over the text, as `Thread`s in order of preference. A
thread is a continuation (what is still to be matched, a list of frames) and what it has captured.
Two threads with one continuation have the same future, so the later one is dropped: a position
costs at most as much as there are continuations.
-/

namespace ChatCommand.Regex

/-- A part of the text, by the numbers of characters before its ends. -/
structure Span where
  start : Nat
  stop : Nat
deriving DecidableEq, Repr

/-- How far an iteration of a repetition has come. -/
inductive Progress where
  /-- The first iteration has consumed nothing yet. -/
  | first
  /-- A later iteration has consumed nothing yet. -/
  | stalled
  /-- The iteration has consumed something. -/
  | moved
deriving DecidableEq, Repr

/-- A part of what is still to be matched. -/
inductive Frame where
  | run (r : Regex)
  /-- The capture that was opened last ends here. -/
  | close (name : String)
  /-- The end of an iteration of `plus greedy r`. -/
  | again (greedy : Bool) (r : Regex) (progress : Progress)
deriving DecidableEq, Repr

/-- What one way to match has passed so far. -/
structure Trail where
  /-- Where the match starts. -/
  start : Nat
  /-- The captures that are complete, latest first. -/
  spans : List (String × Span) := []
  /-- Where the captures start that are open, innermost first. -/
  opened : List Nat := []
deriving DecidableEq, Repr

/-- One way to match that has not failed so far. -/
structure Thread where
  /-- What is still to be matched. -/
  rest : List Frame
  trail : Trail

/-- The outcome of a search. -/
structure Found where
  span : Span
  spans : List (String × Span)
deriving DecidableEq, Repr

/-- Where the capture `name` is, if it took part in the match. -/
def Found.capture? (f : Found) (name : String) : Option Span :=
  f.spans.lookup name

/-! ## Continuations -/

/-- The expressions are equal. Two references to one expression are not compared any further. -/
def same (r s : Regex) : Bool :=
  withPtrEq r s (fun _ => decide (r = s)) (fun h => decide_eq_true h)

/-- The frames are equal. -/
def Frame.same : Frame → Frame → Bool
  | run r, run s => r.same s
  | close m, close n => m == n
  | again g r p, again h s q => g == h && p == q && r.same s
  | _, _ => false

/-- The continuations are equal. -/
def sameFrames : List Frame → List Frame → Bool
  | [], [] => true
  | a :: as, b :: bs => a.same b && sameFrames as bs
  | _, _ => false

/-- The frame after a character has been consumed. -/
def Frame.moved : Frame → Frame
  | again g r _ => again g r .moved
  | f => f

/-- How many expansions an expression can take at one place of the text. -/
def weight : Regex → Nat
  | empty | char _ | look _ => 1
  | capture _ r => weight r + 2
  | seq _ r s => weight r + weight s + 1
  | alt r s => weight r + weight s + 1
  | plus _ r => weight r + 2

/-- How many expansions a frame can take at one place of the text. -/
def Frame.weight : Frame → Nat
  | run r => r.weight
  | close _ => 1
  | again _ r .moved => r.weight + 2
  | again _ _ _ => 1

/-- How many expansions a continuation can take at one place of the text. -/
def weightAll (fs : List Frame) : Nat :=
  fs.foldr (fun f n => f.weight + n) 0

/-- The alternatives of an expression, in order. -/
def branches : Regex → List Regex
  | alt r s => branches r ++ branches s
  | r => [r]

/-! ## One position -/

/-- What has been found at one position: the continuations that are done with, the threads that
have consumed the next character, and a match that ends here. -/
structure Frontier where
  seen : List (List Frame) := []
  /-- The threads behind the next character, last one first. -/
  passed : List Thread := []
  found : Option Found := none

/-- The continuation has been done with. -/
def Frontier.knows (w : Frontier) (fs : List Frame) : Bool :=
  w.seen.any (sameFrames fs)

/-- The continuation is done with now. -/
def Frontier.mark (w : Frontier) (fs : List Frame) : Frontier :=
  { w with seen := fs :: w.seen }

theorem weight_pos (r : Regex) : 0 < r.weight := by
  cases r <;> simp [weight]

theorem weightAll_cons (f : Frame) (fs : List Frame) :
    weightAll (f :: fs) = f.weight + weightAll fs := by
  simp [weightAll]

theorem weight_le_of_mem_branches {r b : Regex} (h : b ∈ branches r) : b.weight ≤ r.weight := by
  induction r with
  | alt r s ihr ihs =>
    rcases List.mem_append.1 h with h | h
    · have := ihr h; simp only [weight]; omega
    · have := ihs h; simp only [weight]; omega
  | _ => simp only [branches, List.mem_singleton] at h; subst h; exact Nat.le_refl _

theorem weight_lt_of_mem_branches {r s b : Regex} (h : b ∈ branches (alt r s)) :
    b.weight < (alt r s).weight := by
  rcases List.mem_append.1 h with h | h
  · have := weight_le_of_mem_branches h
    have := weight_pos s
    simp only [weight]; omega
  · have := weight_le_of_mem_branches h
    have := weight_pos r
    simp only [weight]; omega

/-- The trail in a capture that opens here. -/
def Trail.enter (t : Trail) (pos : Nat) : Trail :=
  { t with opened := pos :: t.opened }

/-- The trail behind the capture that was opened last. -/
def Trail.leave (t : Trail) (name : String) (pos : Nat) : Trail :=
  { t with spans := (name, ⟨t.opened.headD pos, pos⟩) :: t.spans, opened := t.opened.drop 1 }

/-- Follows a continuation up to the next character `after`, which comes behind `before` and `pos`
characters. Once a match has been found here, nothing that comes later counts. -/
def visit (pos : Nat) (before after : Option Char) (w : Frontier) (rest : List Frame) (t : Trail) :
    Frontier :=
  if w.found.isSome then w
  else
    match rest with
    | [] => { w with found := some { span := ⟨t.start, pos⟩, spans := t.spans } }
    | .close name :: k => visit pos before after w k (t.leave name pos)
    | .again _ _ .first :: k => visit pos before after w k t
    | .again _ _ .stalled :: _ => w
    | .again greedy r .moved :: k =>
      if w.knows (.again greedy r .moved :: k) then w
      else if greedy then
        let w := visit pos before after w (.run r :: .again greedy r .stalled :: k) t
        (visit pos before after w k t).mark (.again greedy r .moved :: k)
      else
        let w := visit pos before after w k t
        (visit pos before after w (.run r :: .again greedy r .stalled :: k) t).mark
          (.again greedy r .moved :: k)
    | .run r :: k =>
      match r with
      | .empty => visit pos before after w k t
      | .char set =>
        if after.any (set.mem ·) && !w.knows (.run (.char set) :: k) then
          { w.mark (.run (.char set) :: k) with
            passed := { rest := k.map Frame.moved, trail := t } :: w.passed }
        else w
      | .look a => if a.holds before after then visit pos before after w k t else w
      | .capture name r => visit pos before after w (.run r :: .close name :: k) (t.enter pos)
      | .seq _ r s => visit pos before after w (.run r :: .run s :: k) t
      | .alt r s =>
        if w.knows (.run (.alt r s) :: k) then w
        else
          ((branches (.alt r s)).attach.foldl
            (fun w b => visit pos before after w (.run b.1 :: k) t) w).mark (.run (.alt r s) :: k)
      | .plus greedy r => visit pos before after w (.run r :: .again greedy r .first :: k) t
termination_by weightAll rest
decreasing_by
  all_goals simp only [weightAll_cons, Frame.weight, weight]
  all_goals try omega
  have := weight_lt_of_mem_branches b.2
  simp only [weight] at this
  omega

/-- Follows all threads, in order. -/
def visitAll (pos : Nat) (before after : Option Char) (threads : List Thread) : Frontier :=
  threads.foldl (fun w t => visit pos before after w t.rest t.trail) {}

/-! ## The whole text -/

/-- The threads at a place: those that came so far, and a new one that starts here if a match may
still start here. -/
def started (r : Regex) (pos starts : Nat) (threads : List Thread) (best : Option Found) :
    List Thread :=
  if best.isSome || starts = 0 then threads else threads ++ [⟨[.run r], { start := pos }⟩]

/-- Runs `threads` over the rest of the text and starts new ones for `r` at the next `starts` places
until there is a match. `best` is the match to return if no thread in front of it succeeds. -/
def search (r : Regex) (pos starts : Nat) (before : Option Char) (threads : List Thread)
    (best : Option Found) : List Char → Option Found
  | [] => (visitAll pos before none (started r pos starts threads best)).found <|> best
  | c :: cs =>
    let w := visitAll pos before (some c) (started r pos starts threads best)
    let best := w.found <|> best
    if best.isSome && w.passed.isEmpty then best
    else search r (pos + 1) (starts - 1) (some c) w.passed.reverse best cs

/-- The leftmost match in a text, and of the matches at its start the preferred one. A match cannot
start where less text is left than it needs. -/
def findChars (r : Regex) (cs : List Char) : Option Found :=
  search r 0 (cs.length + 1 - r.minLength) none [] none cs

/-- The leftmost match in a text, and of the matches at its start the preferred one. -/
def find (r : Regex) (text : String) : Option Found :=
  r.findChars text.toList

/-- The characters of a part of a text. -/
def Span.chars (s : Span) (cs : List Char) : List Char :=
  (cs.drop s.start).take (s.stop - s.start)

/-- The part of the text. -/
def Span.text (s : Span) (text : String) : String :=
  String.ofList (s.chars text.toList)

end ChatCommand.Regex
