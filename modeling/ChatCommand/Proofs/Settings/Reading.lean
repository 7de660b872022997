import ChatCommand.Proofs.Settings.Merge
import ChatCommand.Settings.Loader

/-!
# Settings, one by one

Every `Setting` stands at a path of the tree, and what is read for it hangs on that path alone:
`extract_along` says that the part of a tree along the path gives the same value as the whole tree,
and the default if there is no such part.

A reader that looks at one path only is a `Decoder.Reads`. Readers of structures are, field by field
(`Decoder.reads_structured`), if no other field has a say on the value.
-/

namespace ChatCommand.Settings

/-! ## Settings and their paths -/

/-- A single setting. Each part of the program that has a level of its own counts as one. -/
inductive Setting where
  | sigil
  | operators
  | helpEnabled
  | helpResponse
  | level
  | format
  | output
  | filePath
  | threadIds
  | fileLocation
  | spanNew
  | spanEnter
  | spanExit
  | spanClose
  | filter (name : String)
deriving DecidableEq, Repr

/-- Where a setting stands in a tree. -/
def Setting.path : Setting → List String
  | sigil => ["commands", "prefix"]
  | operators => ["commands", "operators"]
  | helpEnabled => ["help", "enabled"]
  | helpResponse => ["help", "response"]
  | level => ["logging", "level"]
  | format => ["logging", "format"]
  | output => ["logging", "output"]
  | filePath => ["logging", "file_path"]
  | threadIds => ["logging", "thread_ids"]
  | fileLocation => ["logging", "file_location"]
  | spanNew => ["logging", "span_events", "new"]
  | spanEnter => ["logging", "span_events", "enter"]
  | spanExit => ["logging", "span_events", "exit"]
  | spanClose => ["logging", "span_events", "close"]
  | filter name => ["logging", "filters", name]

/-- The data that a path leads to, through tables. -/
def Data.at? : Data → List String → Option Data
  | d, [] => some d
  | .table es, k :: ks => (es.lookup k).bind (at? · ks)
  | _, _ :: _ => none

/-- The value of a setting. Only parts of the program may have none. -/
def value? (s : Settings) (σ : Setting) : Option Data :=
  s.toData.at? σ.path

/-! ## Success -/

theorem bind_eq_ok {ε α β : Type} {x : Except ε α} {f : α → Except ε β} {b : β} :
    x >>= f = .ok b ↔ ∃ a, x = .ok a ∧ f a = .ok b := by
  cases x <;> simp [bind, Except.bind]

theorem map_eq_ok {ε α β : Type} {x : Except ε α} {f : α → β} {b : β} :
    x.map f = .ok b ↔ ∃ a, x = .ok a ∧ f a = b := by
  cases x <;> simp [Except.map]

theorem mapError_eq_ok {ε ε' α : Type} {x : Except ε α} {f : ε → ε'} {a : α} :
    x.mapError f = .ok a ↔ x = .ok a := by
  cases x <;> simp [Except.mapError]

theorem mapM_cons_eq_ok {ε α β : Type} {f : α → Except ε β} {x : α} {xs : List α} {ys : List β} :
    (x :: xs).mapM f = .ok ys ↔
      ∃ y ys', f x = .ok y ∧ xs.mapM f = .ok ys' ∧ y :: ys' = ys := by
  rw [List.mapM_cons, bind_eq_ok]
  constructor
  · rintro ⟨y, hy, h⟩
    obtain ⟨ys', hys, h⟩ := bind_eq_ok.1 h
    exact ⟨y, ys', hy, hys, Except.ok.inj h⟩
  · rintro ⟨y, ys', hy, hys, rfl⟩
    exact ⟨y, hy, bind_eq_ok.2 ⟨ys', hys, rfl⟩⟩

/-! ## Readers that look at one path -/

namespace Decoder

variable {α β : Type}

/-- On the path, what is read from a tree is what is read from its part along the path, and the
default if there is none. -/
def Reads (d : Decoder α) (view : α → Data) (default : α) (path : List String) : Prop :=
  ∀ place n a, n.Sorted → d place n = .ok a →
    (∀ part, n.along path = some part →
      ∃ b, d place part = .ok b ∧ (view b).at? path = (view a).at? path) ∧
    (n.along path = none → (view a).at? path = (view default).at? path)

theorem reads_nil (d : Decoder α) (view : α → Data) (default : α) : d.Reads view default [] := by
  intro place n a _ h
  refine ⟨?_, fun hnone => by cases n <;> cases hnone⟩
  intro part hpart
  obtain rfl : n = part := by cases n <;> exact Option.some.inj hpart
  exact ⟨a, h, rfl⟩

theorem into_eq_ok {d : Decoder β} {f : β → α} {place : List String} {n : Node} {a : α} :
    d.into f place n = .ok a ↔ ∃ b, d place n = .ok b ∧ f b = a :=
  map_eq_ok

section Structured

variable {typeName : String} {names : List String} {default : α}
  {field : α → String → Option (Decoder α)}

/-- Sets the field that an entry is for, if there is one. -/
def step (field : α → String → Option (Decoder α)) (a : α) (entry : String × List String × Node) :
    Except Fault α :=
  match field a entry.1 with
  | some decoder => decoder entry.2.1 entry.2.2
  | none => .ok a

theorem structured_table (k : Strictness) (place : List String) (o : Origin) (es : Entries Node) :
    structured k typeName names default field place (.table o es) =
      (es.map fun e => (e.1, place ++ [e.1], e.2)).foldlM (step field) default := rfl

/-- The fields of other entries stay as they are. -/
theorem foldlM_frame {γ : Type} {get : α → γ} {k : String}
    (hother : ∀ a j d place n a', j ≠ k → field a j = some d → d place n = .ok a' →
      get a' = get a)
    {es : List (String × List String × Node)} (hes : ∀ e ∈ es, e.1 ≠ k) {a a' : α}
    (h : es.foldlM (step field) a = .ok a') : get a' = get a := by
  induction es generalizing a with
  | nil =>
    obtain rfl := Except.ok.inj h
    rfl
  | cons e es ih =>
    obtain ⟨he, hes⟩ := List.forall_mem_cons.1 hes
    rw [List.foldlM_cons] at h
    obtain ⟨b, hstep, h⟩ := bind_eq_ok.1 h
    rw [ih hes h]
    unfold step at hstep
    split at hstep
    · exact hother a e.1 _ _ _ b he ‹_› hstep
    · rw [Except.ok.inj hstep]

theorem get?_split {es : Entries Node} (hes : es.Ordered) {k : String} {n : Node}
    (h : Entries.get? es k = some n) :
    ∃ front back, es = front ++ (k, n) :: back ∧ (∀ e ∈ front, e.1 ≠ k) ∧ ∀ e ∈ back, e.1 ≠ k := by
  obtain ⟨front, back, rfl, hfront⟩ := List.lookup_eq_some_iff.1 h
  obtain ⟨-, hback, -⟩ := List.pairwise_append.1 hes
  refine ⟨front, back, rfl, fun e he => ?_, fun e he => ?_⟩
  · exact (bne_iff_ne.1 (hfront e he)).symm
  · exact ((List.pairwise_cons.1 hback).1 e he).ne'

theorem ne_of_get?_none {es : Entries Node} {k : String} (h : Entries.get? es k = none) :
    ∀ e ∈ es, e.1 ≠ k := by
  intro e he
  exact (bne_iff_ne.1 (List.lookup_eq_none_iff.1 h e he)).symm

/-- A field of a structure is read on its own path. -/
theorem reads_structured {st : Strictness} {view : α → Data} {d : Decoder β} {part : β → Data}
    {inner : β} {set : α → β → α} {k : String} {ks : List String} (hd : d.Reads part inner ks)
    (hfield : ∀ a, field a k = some (d.into (set a)))
    (hset : ∀ a b, (view (set a b)).at? (k :: ks) = (part b).at? ks)
    (hdefault : (view default).at? (k :: ks) = (part inner).at? ks)
    (hother : ∀ a j e place n a', j ≠ k → field a j = some e → e place n = .ok a' →
      (view a').at? (k :: ks) = (view a).at? (k :: ks)) :
    (structured st typeName names default field).Reads view default (k :: ks) := by
  intro place n a hn h
  cases n with
  | scalar o s =>
    refine ⟨fun part hpart => ⟨a, ?_, rfl⟩, fun hnone => by cases hnone⟩
    rwa [← Option.some.inj hpart]
  | list o items =>
    refine ⟨fun part hpart => ⟨a, ?_, rfl⟩, fun hnone => by cases hnone⟩
    rwa [← Option.some.inj hpart]
  | table o es =>
    rw [structured_table] at h
    cases hk : Entries.get? es k with
    | none =>
      refine ⟨fun part hpart => by simp [Node.along, hk] at hpart, fun _ => ?_⟩
      exact foldlM_frame hother (List.forall_mem_map.2 (ne_of_get?_none hk)) h
    | some m =>
      obtain ⟨front, back, rfl, hfront, hback⟩ := get?_split hn.entries.1 hk
      obtain ⟨a', b, hb, hview⟩ : ∃ a' b, d (place ++ [k]) m = .ok b ∧
          (view a).at? (k :: ks) = (view (set a' b)).at? (k :: ks) := by
        rw [List.map_append, List.foldlM_append] at h
        obtain ⟨a', -, h⟩ := bind_eq_ok.1 h
        rw [List.map_cons, List.foldlM_cons] at h
        obtain ⟨a'', hm, h⟩ := bind_eq_ok.1 h
        simp only [step, hfield] at hm
        obtain ⟨b, hb, rfl⟩ := into_eq_ok.1 hm
        exact ⟨a', b, hb, foldlM_frame hother (List.forall_mem_map.2 hback) h⟩
      obtain ⟨hsome, hnone⟩ := hd _ m b (hn.entries.get? hk) hb
      rw [hview, hset]
      constructor
      · intro x hx
        obtain ⟨y, hy, rfl⟩ : ∃ y, m.along ks = some y ∧ .table .program [(k, y)] = x := by
          simpa [Node.along, hk] using hx
        obtain ⟨b', hb', heq⟩ := hsome y hy
        refine ⟨set default b', ?_, by rw [hset, heq]⟩
        rw [structured_table]
        simp only [List.map_cons, List.map_nil, List.foldlM_cons, List.foldlM_nil, step, hfield]
        rw [(into_eq_ok (f := set default)).2 ⟨b', hb', rfl⟩]
        rfl
      · intro hx
        rw [hdefault]
        exact hnone (by simpa [Node.along, hk] using hx)

/-- A field that is read leaves all other fields as they are. -/
def Keeps (field : α → String → Option (Decoder α)) (view : α → Data) : Prop :=
  ∀ a j d place n a', field a j = some d → d place n = .ok a' → ∀ k, k ≠ j → ∀ ks,
    (view a').at? (k :: ks) = (view a).at? (k :: ks)

theorem Keeps.reads {st : Strictness} {view : α → Data} (hkeeps : Keeps field view) {d : Decoder β}
    {part : β → Data} {inner : β} {set : α → β → α} {k : String} {ks : List String}
    (hfield : ∀ a, field a k = some (d.into (set a))) (hd : d.Reads part inner ks)
    (hset : ∀ a b, (view (set a b)).at? (k :: ks) = (part b).at? ks)
    (hdefault : (view default).at? (k :: ks) = (part inner).at? ks) :
    (structured st typeName names default field).Reads view default (k :: ks) :=
  reads_structured hd hfield hset hdefault fun a j e place n a' hjk hj he =>
    hkeeps a j e place n a' hj he k hjk.symm ks

end Structured

end Decoder

open Decoder

/-! ## The fields of the settings -/

theorem decodeCommands_fields (k : Strictness) : ∃ field,
    decodeCommands k = structured k "CommandsConfig" ["prefix", "operators"] {} field ∧
      Keeps field CommandSettings.toData ∧
      (∀ c, field c "prefix" = some (text.into fun sigil => { c with sigil })) ∧
      ∀ c, field c "operators" = some ((list text).into fun operators => { c with operators }) := by
  refine ⟨_, rfl, ?_, fun _ => rfl, fun _ => rfl⟩
  intro a j d place n a' hfield hread k hk ks
  dsimp only at hfield
  split at hfield
  all_goals cases hfield
  all_goals
    obtain ⟨b, -, rfl⟩ := into_eq_ok.1 hread
    simp [CommandSettings.toData, Data.at?, List.lookup_cons, beq_eq_false_iff_ne.2 hk]

theorem decodeHelp_fields (k : Strictness) : ∃ field,
    decodeHelp k = structured k "HelpConfig" ["enabled", "response"] {} field ∧
      Keeps field HelpSettings.toData ∧
      (∀ h, field h "enabled" = some (bool.into fun enabled => { h with enabled })) ∧
      ∀ h, field h "response" =
        some ((decodeResponse k).into fun response => { h with response }) := by
  refine ⟨_, rfl, ?_, fun _ => rfl, fun _ => rfl⟩
  intro a j d place n a' hfield hread k hk ks
  dsimp only at hfield
  split at hfield
  all_goals cases hfield
  all_goals
    obtain ⟨b, -, rfl⟩ := into_eq_ok.1 hread
    simp [HelpSettings.toData, Data.at?, List.lookup_cons, beq_eq_false_iff_ne.2 hk]

theorem decodeSpanEvents_fields (k : Strictness) : ∃ field,
    decodeSpanEvents k =
        structured k "SpanEventConfig" ["new", "enter", "exit", "close"] {} field ∧
      Keeps field SpanEvents.toData ∧
      (∀ s, field s "new" = some (bool.into fun new => { s with new })) ∧
      (∀ s, field s "enter" = some (bool.into fun enter => { s with enter })) ∧
      (∀ s, field s "exit" = some (bool.into fun exit => { s with exit })) ∧
      ∀ s, field s "close" = some (bool.into fun close => { s with close }) := by
  refine ⟨_, rfl, ?_, fun _ => rfl, fun _ => rfl, fun _ => rfl, fun _ => rfl⟩
  intro a j d place n a' hfield hread k hk ks
  dsimp only at hfield
  split at hfield
  all_goals cases hfield
  all_goals
    obtain ⟨b, -, rfl⟩ := into_eq_ok.1 hread
    simp [SpanEvents.toData, Data.at?, List.lookup_cons, beq_eq_false_iff_ne.2 hk]

theorem decodeLogging_fields (k : Strictness) : ∃ field,
    decodeLogging k = structured k "LoggingConfig"
        ["level", "format", "output", "file_path", "thread_ids", "file_location", "span_events",
          "filters"] {} field ∧
      Keeps field LogSettings.toData ∧
      (∀ l, field l "level" = some ((decodeLevel k).into fun level => { l with level })) ∧
      (∀ l, field l "format" = some ((decodeFormat k).into fun format => { l with format })) ∧
      (∀ l, field l "output" = some ((decodeOutput k).into fun output => { l with output })) ∧
      (∀ l, field l "file_path" = some (path?.into fun filePath => { l with filePath })) ∧
      (∀ l, field l "thread_ids" = some (bool.into fun threadIds => { l with threadIds })) ∧
      (∀ l, field l "file_location" =
        some (bool.into fun fileLocation => { l with fileLocation })) ∧
      (∀ l, field l "span_events" =
        some ((decodeSpanEvents k).into fun spanEvents => { l with spanEvents })) ∧
      ∀ l, field l "filters" =
        some ((table (decodeLevel k)).into fun filters => { l with filters }) := by
  refine ⟨_, rfl, ?_, fun _ => rfl, fun _ => rfl, fun _ => rfl, fun _ => rfl, fun _ => rfl,
    fun _ => rfl, fun _ => rfl, fun _ => rfl⟩
  intro a j d place n a' hfield hread k hk ks
  dsimp only at hfield
  split at hfield
  all_goals cases hfield
  all_goals
    obtain ⟨b, -, rfl⟩ := into_eq_ok.1 hread
    simp [LogSettings.toData, Data.at?, List.lookup_cons, beq_eq_false_iff_ne.2 hk]

theorem decode_fields (k : Strictness) : ∃ field,
    decode k = structured k "AlloyConfig" ["commands", "help", "logging"] {} field ∧
      Keeps field Settings.toData ∧
      (∀ s, field s "commands" =
        some ((decodeCommands k).into fun commands => { s with commands })) ∧
      (∀ s, field s "help" = some ((decodeHelp k).into fun help => { s with help })) ∧
      ∀ s, field s "logging" = some ((decodeLogging k).into fun logging => { s with logging }) := by
  refine ⟨_, rfl, ?_, fun _ => rfl, fun _ => rfl, fun _ => rfl⟩
  intro a j d place n a' hfield hread k hk ks
  dsimp only at hfield
  split at hfield
  all_goals cases hfield
  all_goals
    obtain ⟨b, -, rfl⟩ := into_eq_ok.1 hread
    simp [Settings.toData, Data.at?, List.lookup_cons, beq_eq_false_iff_ne.2 hk]

/-! ## Every setting is read on its own path -/

theorem lookup_mapM {α : Type} {d : Decoder α} {place : List String} {es : Entries Node}
    {vs : List (String × α)}
    (h : es.mapM (fun (k, n) => (d (place ++ [k]) n).map (k, ·)) = Except.ok vs) (k : String) :
    (Entries.get? es k = none → vs.lookup k = none) ∧
      ∀ n, Entries.get? es k = some n → ∃ v, d (place ++ [k]) n = .ok v ∧ vs.lookup k = some v := by
  induction es generalizing vs with
  | nil =>
    obtain rfl := Except.ok.inj h
    exact ⟨fun _ => rfl, fun n hn => by cases hn⟩
  | cons e es ih =>
    obtain ⟨j, m⟩ := e
    obtain ⟨w, ws, hw, hrest, rfl⟩ := mapM_cons_eq_ok.1 h
    obtain ⟨v, hv, rfl⟩ := map_eq_ok.1 hw
    rw [Entries.get?_cons, List.lookup_cons]
    by_cases hk : k = j
    · subst hk
      simpa using hv
    · simpa [hk, beq_eq_false_iff_ne.2 hk] using ih hrest

theorem lookup_map {α β : Type} (f : α → β) (k : String) (vs : List (String × α)) :
    (vs.map fun (j, v) => (j, f v)).lookup k = (vs.lookup k).map f := by
  induction vs with
  | nil => rfl
  | cons v vs ih =>
    rw [List.map_cons, List.lookup_cons, List.lookup_cons, ih]
    cases k == v.1 <;> rfl

theorem reads_table {α : Type} (d : Decoder α) (view : α → Data) (key : String) :
    (table d).Reads (fun vs => .table (vs.map fun (k, v) => (k, view v))) [] [key] := by
  intro place n vs _ h
  cases n with
  | scalar o s => cases h
  | list o items => cases h
  | table o es =>
    obtain ⟨hnone, hsome⟩ := lookup_mapM h key
    simp only [Data.at?, Node.along, lookup_map]
    cases hkey : Entries.get? es key with
    | none => simp [hnone hkey]
    | some m =>
      obtain ⟨v, hv, hlookup⟩ := hsome m hkey
      refine ⟨?_, by simp⟩
      intro part hpart
      obtain rfl : Node.table .program [(key, m)] = part := by simpa using hpart
      refine ⟨[(key, v)], ?_, by simp [hlookup]⟩
      simp only [table, List.mapM_cons, List.mapM_nil, hv]
      rfl

theorem reads_decodeCommands (k : Strictness) :
    ∀ key ∈ ["prefix", "operators"], (decodeCommands k).Reads CommandSettings.toData {} [key] := by
  obtain ⟨field, heq, hkeeps, hprefix, hoperators⟩ := decodeCommands_fields k
  simp only [heq, List.forall_mem_cons]
  exact ⟨hkeeps.reads hprefix (reads_nil _ _ _) (fun _ _ => rfl) rfl,
    hkeeps.reads hoperators (reads_nil _ (fun os => .list (os.map textData)) _) (fun _ _ => rfl)
      rfl,
      List.forall_mem_nil _⟩

theorem reads_decodeHelp (k : Strictness) :
    ∀ key ∈ ["enabled", "response"], (decodeHelp k).Reads HelpSettings.toData {} [key] := by
  obtain ⟨field, heq, hkeeps, henabled, hresponse⟩ := decodeHelp_fields k
  simp only [heq, List.forall_mem_cons]
  exact ⟨hkeeps.reads henabled (reads_nil _ _ _) (fun _ _ => rfl) rfl,
    hkeeps.reads hresponse (reads_nil _ (fun r => textData r.name) _) (fun _ _ => rfl) rfl,
      List.forall_mem_nil _⟩

theorem reads_decodeSpanEvents (k : Strictness) :
    ∀ key ∈ ["new", "enter", "exit", "close"],
      (decodeSpanEvents k).Reads SpanEvents.toData {} [key] := by
  obtain ⟨field, heq, hkeeps, hnew, henter, hexit, hclose⟩ := decodeSpanEvents_fields k
  simp only [heq, List.forall_mem_cons]
  exact ⟨hkeeps.reads hnew (reads_nil _ _ _) (fun _ _ => rfl) rfl,
    hkeeps.reads henter (reads_nil _ _ _) (fun _ _ => rfl) rfl,
    hkeeps.reads hexit (reads_nil _ _ _) (fun _ _ => rfl) rfl,
    hkeeps.reads hclose (reads_nil _ _ _) (fun _ _ => rfl) rfl, List.forall_mem_nil _⟩

theorem reads_decodeLogging (k : Strictness) :
    (∀ key ∈ ["level", "format", "output", "file_path", "thread_ids", "file_location"],
      (decodeLogging k).Reads LogSettings.toData {} [key]) ∧
    (∀ key ∈ ["new", "enter", "exit", "close"],
      (decodeLogging k).Reads LogSettings.toData {} ["span_events", key]) ∧
    ∀ key, (decodeLogging k).Reads LogSettings.toData {} ["filters", key] := by
  obtain ⟨field, heq, hkeeps, hlevel, hformat, houtput, hpath, hthreads, hlocation, hspans,
    hfilters⟩ := decodeLogging_fields k
  simp only [heq]
  refine ⟨?_, ?_, ?_⟩
  · simp only [List.forall_mem_cons]
    exact ⟨hkeeps.reads hlevel (reads_nil _ (fun l => textData l.name) _) (fun _ _ => rfl) rfl,
      hkeeps.reads hformat (reads_nil _ (fun f => textData f.name) _) (fun _ _ => rfl) rfl,
      hkeeps.reads houtput (reads_nil _ (fun o => textData o.name) _) (fun _ _ => rfl) rfl,
      hkeeps.reads hpath (reads_nil _ (fun p => (p.map textData).getD (.scalar .null)) _)
        (fun _ _ => rfl) rfl,
      hkeeps.reads hthreads (reads_nil _ _ _) (fun _ _ => rfl) rfl,
      hkeeps.reads hlocation (reads_nil _ _ _) (fun _ _ => rfl) rfl, List.forall_mem_nil _⟩
  · intro key hkey
    exact hkeeps.reads hspans (reads_decodeSpanEvents k key hkey) (fun _ _ => rfl) rfl
  · intro key
    exact hkeeps.reads hfilters (reads_table _ (fun l => textData l.name) key) (fun _ _ => rfl) rfl

/-- Every setting is read on its own path. -/
theorem reads_decode (k : Strictness) (σ : Setting) :
    (decode k).Reads Settings.toData {} σ.path := by
  obtain ⟨field, heq, hkeeps, hcommands, hhelp, hlogging⟩ := decode_fields k
  obtain ⟨hfixed, hspans, hfilters⟩ := reads_decodeLogging k
  have commands {ks} (h : (decodeCommands k).Reads CommandSettings.toData {} ks) :
      (decode k).Reads Settings.toData {} ("commands" :: ks) :=
    heq ▸ hkeeps.reads hcommands h (fun _ _ => rfl) rfl
  have help {ks} (h : (decodeHelp k).Reads HelpSettings.toData {} ks) :
      (decode k).Reads Settings.toData {} ("help" :: ks) :=
    heq ▸ hkeeps.reads hhelp h (fun _ _ => rfl) rfl
  have logging {ks} (h : (decodeLogging k).Reads LogSettings.toData {} ks) :
      (decode k).Reads Settings.toData {} ("logging" :: ks) :=
    heq ▸ hkeeps.reads hlogging h (fun _ _ => rfl) rfl
  cases σ with
  | sigil => exact commands (reads_decodeCommands k _ (by decide))
  | operators => exact commands (reads_decodeCommands k _ (by decide))
  | helpEnabled => exact help (reads_decodeHelp k _ (by decide))
  | helpResponse => exact help (reads_decodeHelp k _ (by decide))
  | spanNew => exact logging (hspans _ (by decide))
  | spanEnter => exact logging (hspans _ (by decide))
  | spanExit => exact logging (hspans _ (by decide))
  | spanClose => exact logging (hspans _ (by decide))
  | filter name => exact logging (hfilters name)
  | _ => exact logging (hfixed _ (by decide))

/-! ## What sources say -/

theorem extract_eq_ok {n : Node} {s : Settings} :
    Loader.extract n = .ok s ↔ decode .lenient [] n = .ok s :=
  mapError_eq_ok

/-- What settings hold for a setting hangs on the part of the tree along its path: that part gives
the same value, and if there is none, the value is the default. -/
theorem extract_along {n : Node} (hn : n.Sorted) {s : Settings} (h : Loader.extract n = .ok s)
    (σ : Setting) :
    (∀ part, n.along σ.path = some part →
      ∃ t, Loader.extract part = .ok t ∧ value? t σ = value? s σ) ∧
    (n.along σ.path = none → value? s σ = value? {} σ) := by
  simp only [extract_eq_ok] at h ⊢
  exact reads_decode .lenient σ [] n s hn h

end ChatCommand.Settings
