import ChatCommand.Proofs.Command.Names

/-!
# Invocations that are written out

`Definition.invocation` writes a name and values behind it, each behind a blank. If the parts of an
invocation come apart at its blanks (`Definition.Wordwise`), the values that are written are the
values that a command reports, and arguments left out at the end have none:
`Command.captures?_invocation`.

A value that is a word ends where the next blank is, and a text with blanks in it is the last value.
So the search of `firstValues` can go on behind one value only, and this is the one that was written
(`firstValues_invocation`).
-/

namespace ChatCommand

/-- The text up to its first blank. -/
def firstWord (cs : List Char) : List Char :=
  cs.takeWhile (!Text.isBlank ·)

theorem firstWord_append {word cs : List Char} (hword : word.any Text.isBlank = false)
    (hcs : ∀ b ∈ cs.head?, Text.isBlank b = true) : firstWord (word ++ cs) = word := by
  have hall : ∀ b ∈ word, (!Text.isBlank b) = true := by simpa using hword
  rw [firstWord, List.takeWhile_append_of_pos hall]
  cases cs with
  | nil => simp
  | cons b cs => simp [hcs b rfl]

/-! ## Definitions whose invocations come apart -/

/-- The fixed texts of a format. -/
def Format.texts : Format → List String
  | choices texts => texts
  | literal text => [text]
  | type _ | pattern _ => []

/-- The parts of an invocation come apart at its blanks, and each argument takes one of them. -/
structure Definition.Wordwise (d : Definition) : Prop where
  names_word : ∀ n ∈ d.names, n.toList.any Text.isBlank = false
  not_custom : ∀ a ∈ d.arguments, a.format.isCustom = false
  texts_word : ∀ a ∈ d.arguments, ∀ t ∈ a.format.texts, t.toList.any Text.isBlank = false
  /-- Only the last argument may be a text with blanks in it. -/
  text_last : ∀ a ∈ d.arguments.dropLast, a.format ≠ .type .text
  /-- Behind an argument that may be left out, all may be. -/
  optional_last : d.arguments.Pairwise fun a b => a.optional = true → b.optional = true

theorem not_blank_of_isDigit {c : Char} (h : c.isDigit = true) : Text.isBlank c = false := by
  obtain ⟨hlow, hhigh⟩ := Char.isDigit_iff_toNat.1 h
  have hlow : 48 ≤ c.toNat := hlow
  have hhigh : c.toNat ≤ 57 := hhigh
  simp only [Text.isBlank, Bool.or_eq_false_iff, Bool.and_eq_false_iff, decide_eq_false_iff_not,
    beq_eq_false_iff_ne]
  omega

/-- A value is a word, unless the format admits blanks. -/
theorem Format.Accepts.word {f : Format} {v : String} (h : f.Accepts v)
    (hcustom : f.isCustom = false) (htexts : ∀ t ∈ f.texts, t.toList.any Text.isBlank = false)
    (htext : f ≠ .type .text) : v.toList.any Text.isBlank = false := by
  cases f with
  | pattern source => cases hcustom
  | choices texts => exact htexts v h
  | literal text =>
    obtain rfl : v = text := h
    exact htexts v List.mem_cons_self
  | type t =>
    rw [List.any_eq_false]
    intro c hc
    rw [Bool.not_eq_true]
    cases t with
    | string => exact h.2 c hc
    | integer => exact not_blank_of_isDigit (h.2 c hc)
    | text => exact absurd rfl htext
    | float =>
      obtain ⟨whole, fraction, hv, hwhole, -, hfraction⟩ := h
      rw [hv, List.mem_append, List.mem_cons] at hc
      rcases hc with hc | rfl | hc
      · exact not_blank_of_isDigit (hwhole c hc)
      · rfl
      · exact not_blank_of_isDigit (hfraction c hc)

/-! ## What is written -/

/-- The text of values, each behind its blank. -/
def writtenParts (parts : List (Char × String)) : List Char :=
  parts.flatMap fun (b, v) => b :: v.toList

/-- The text of an invocation: a name, and values behind it, each behind its blank. -/
def Definition.invocation (name : String) (parts : List (Char × String)) : String :=
  name ++ String.ofList (writtenParts parts)

theorem writtenParts_head_blank {as : List Argument} {parts : List (Char × String)}
    (hmax : parts.length ≤ as.length)
    (hparts : ∀ p ∈ as.zip parts, Text.isBlank p.2.1 = true ∧ p.1.format.Accepts p.2.2) :
    ∀ b ∈ (writtenParts parts).head?, Text.isBlank b = true := by
  cases parts with
  | nil => rintro _ ⟨⟩
  | cons p parts =>
    cases as with
    | nil => cases hmax
    | cons a as =>
      rintro _ ⟨⟩
      exact (hparts (a, p) List.mem_cons_self).1

theorem firstValues_nothing {as : List Argument} (h : ∀ a ∈ as, a.optional = true) :
    firstValues as [] = some (List.replicate as.length none) := by
  induction as with
  | nil => rfl
  | cons a as ih =>
    obtain ⟨ha, has⟩ := List.forall_mem_cons.1 h
    rw [firstValues, ha, if_pos rfl, ih has]
    rfl

/-- A value is found behind a blank if the search goes on behind it, and behind no other value. -/
theorem firstPresent_eq {a : Argument} (ha : a.format.isCustom = false)
    {next : List Char → Option (List (Option String))} {b : Char} {v : String} {cs : List Char}
    (hb : Text.isBlank b = true) (hv : a.format.Accepts v)
    (hother : ∀ w tail, v.toList ++ cs = w.toList ++ tail → a.format.Accepts w →
      (next tail).isSome → w = v) :
    a.firstPresent next (b :: (v.toList ++ cs)) = (next cs).map (some v :: ·) := by
  have hmem : v ∈ a.format.values (v.toList ++ cs) :=
    (Format.mem_values ha).2 ⟨hv, List.prefix_append _ _⟩
  rw [Argument.firstPresent, if_pos hb, Command.findSome?_eq_of_mem hmem, List.drop_left]
  intro w hw hne
  obtain ⟨hacc, tail, htail⟩ := (Format.mem_values ha).1 hw
  rw [Option.map_eq_none_iff, ← Option.not_isSome_iff_eq_none, ← htail, List.drop_left]
  exact fun hsome => hne (hother w tail htail.symm hacc hsome)

/-- A word is read off behind its blank, whatever is behind it. -/
theorem firstPresent_word {a : Argument} (ha : a.format.isCustom = false)
    (htexts : ∀ t ∈ a.format.texts, t.toList.any Text.isBlank = false)
    (htext : a.format ≠ .type .text) {as : List Argument}
    (has : ∀ a ∈ as, a.format.isCustom = false) {b : Char} {v : String} {cs : List Char}
    (hb : Text.isBlank b = true) (hv : a.format.Accepts v)
    (hcs : ∀ b ∈ cs.head?, Text.isBlank b = true) :
    a.firstPresent (firstValues as) (b :: (v.toList ++ cs)) =
      (firstValues as cs).map (some v :: ·) := by
  refine firstPresent_eq ha hb hv fun w tail heq hw hsome => ?_
  obtain ⟨vs, hvs⟩ := Option.isSome_iff_exists.1 hsome
  obtain ⟨hsp, -⟩ := firstValues_first has hvs
  have hword := congrArg firstWord heq
  rw [firstWord_append (hv.word ha htexts htext) hcs,
    firstWord_append (hw.word ha htexts htext) hsp.head_blank] at hword
  exact (String.toList_inj.1 hword).symm

/-- The values that are found are those that were written. -/
theorem firstValues_invocation {as : List Argument} {parts : List (Char × String)}
    (hcustom : ∀ a ∈ as, a.format.isCustom = false)
    (htexts : ∀ a ∈ as, ∀ t ∈ a.format.texts, t.toList.any Text.isBlank = false)
    (hlast : ∀ a ∈ as.dropLast, a.format ≠ .type .text)
    (hopt : as.Pairwise fun a b => a.optional = true → b.optional = true)
    (hmin : (as.filter (!·.optional)).length ≤ parts.length) (hmax : parts.length ≤ as.length)
    (hparts : ∀ p ∈ as.zip parts, Text.isBlank p.2.1 = true ∧ p.1.format.Accepts p.2.2) :
    firstValues as (writtenParts parts) =
      some (parts.map (some ·.2) ++ List.replicate (as.length - parts.length) none) := by
  induction parts generalizing as with
  | nil =>
    refine firstValues_nothing fun a ha => ?_
    have hnone := List.filter_eq_nil_iff.1 (List.length_eq_zero_iff.1 (Nat.le_zero.1 hmin)) a ha
    simpa using hnone
  | cons p parts ih =>
    cases as with
    | nil => cases hmax
    | cons a as =>
      obtain ⟨b, v⟩ := p
      obtain ⟨hca, hcas⟩ := List.forall_mem_cons.1 hcustom
      obtain ⟨hta, htas⟩ := List.forall_mem_cons.1 htexts
      obtain ⟨hoa, hoas⟩ := List.pairwise_cons.1 hopt
      obtain ⟨⟨hb, hv⟩, hrest⟩ := List.forall_mem_cons.1 hparts
      have hmax : parts.length ≤ as.length := Nat.le_of_succ_le_succ hmax
      have hmin : (as.filter (!·.optional)).length ≤ parts.length := by
        cases ha : a.optional with
        | false => simpa [ha] using hmin
        | true =>
          have : as.filter (!·.optional) = [] := by
            simpa [List.filter_eq_nil_iff] using fun a' ha' => hoa a' ha' ha
          simp [this]
      have hlast' : ∀ a ∈ as.dropLast, a.format ≠ .type .text := fun a' ha' => by
        refine hlast a' ?_
        rw [List.dropLast_cons_of_ne_nil (by rintro rfl; cases ha')]
        exact List.mem_cons_of_mem _ ha'
      have hnext := ih hcas htas hlast' hoas hmin hmax hrest
      have hfirst : a.firstPresent (firstValues as) (b :: (v.toList ++ writtenParts parts)) =
          (firstValues as (writtenParts parts)).map (some v :: ·) := by
        by_cases htext : a.format = .type .text
        · -- A text is the last value, so there is nothing behind it either way.
          have hnil : as = [] := by
            cases as with
            | nil => rfl
            | cons a' as => exact absurd htext (hlast a (by simp))
          subst hnil
          obtain rfl : parts = [] := List.length_eq_zero_iff.1 (Nat.le_zero.1 hmax)
          refine firstPresent_eq hca hb hv fun w tail heq _ hsome => ?_
          obtain ⟨vs, hvs⟩ := Option.isSome_iff_exists.1 hsome
          obtain ⟨hsp, -⟩ := firstValues_first hcas hvs
          cases hsp
          rw [← String.toList_inj]
          simpa [writtenParts] using heq.symm
        · exact firstPresent_word hca hta htext hcas hb hv (writtenParts_head_blank hmax hrest)
      have hcons : writtenParts ((b, v) :: parts) = b :: (v.toList ++ writtenParts parts) := rfl
      rw [hcons, firstValues, hfirst, hnext]
      simp

/-! ## What is read -/

namespace Command

variable {c : Command}

/-- An invocation that makes up the whole text is the leftmost one in it. -/
theorem captures?_of_capturesAtStart? {text : String} {values : Values}
    (h : c.capturesAtStart? text = some values) : c.captures? text = some values := by
  unfold capturesAtStart? at h
  unfold captures?
  cases hf : c.regex.find text with
  | none => simp [hf] at h
  | some found =>
    simp only [hf] at h
    split at h
    · simpa using h
    · cases h

/-- Behind a name that is a word, the values that are reported are the first that can be found. -/
theorem capturesAtStart?_eq_firstValues (hc : ∀ a ∈ c.arguments, a.format.isCustom = false)
    (hnames : ∀ n ∈ c.names, n.toList.any Text.isBlank = false) {name : String}
    (hname : name ∈ c.names) {rest : String}
    (hrest : ∀ b ∈ rest.toList.head?, Text.isBlank b = true) :
    c.capturesAtStart? (name ++ rest) = (firstValues c.arguments rest.toList).map c.entries := by
  have hcomment : ∀ a ∈ c.arguments, a.format.leavesComment = false := fun a ha =>
    Format.leavesComment_of_not_custom (hc a ha)
  have hrel := rel_head (Definition.captureNames 0 c.arguments) (i := 0) hc
    ({ rest := rest.toList } : Regex.Cursor)
  rw [capturesAtStart?_append hcomment (Definition.namesApart_of_no_blank hnames) hname hrest]
  change Option.Rel _ _ (c.argumentWays { rest := rest.toList }).head? at hrel
  change Option.Rel _ (firstValues c.arguments rest.toList) _ at hrel
  generalize firstValues c.arguments rest.toList = p,
    (c.argumentWays { rest := rest.toList }).head? = q at hrel ⊢
  cases hrel with
  | none => rfl
  | some hrun =>
    have hat : ({ rest := rest.toList } : Regex.Cursor).At rest.toList := rfl
    exact congrArg some (valuesOf_run hrun hat rfl 0)

theorem capturesAtStart?_of_firstValues (hc : ∀ a ∈ c.arguments, a.format.isCustom = false)
    (hnames : ∀ n ∈ c.names, n.toList.any Text.isBlank = false) {name : String}
    (hname : name ∈ c.names) {rest : String}
    (hrest : ∀ b ∈ rest.toList.head?, Text.isBlank b = true) {vs : List (Option String)}
    (h : firstValues c.arguments rest.toList = some vs) :
    c.capturesAtStart? (name ++ rest) = some (c.entries vs) := by
  rw [capturesAtStart?_eq_firstValues hc hnames hname hrest, h, Option.map_some]

/-- If invocations come apart at their blanks, then a command reports the values that were written
behind one of its names, and none for the arguments that were left out at the end. -/
theorem captures?_invocation (h : c.Wordwise) {name : String} (hname : name ∈ c.names)
    {parts : List (Char × String)}
    (hmin : (c.arguments.filter (!·.optional)).length ≤ parts.length)
    (hmax : parts.length ≤ c.arguments.length)
    (hparts : ∀ p ∈ c.arguments.zip parts,
      Text.isBlank p.2.1 = true ∧ p.1.format.Accepts p.2.2) :
    c.captures? (Definition.invocation name parts) =
        some (c.entries (parts.map (some ·.2) ++
          List.replicate (c.arguments.length - parts.length) none)) ∧
      c.capturesAtStart? (Definition.invocation name parts) =
        some (c.entries (parts.map (some ·.2) ++
          List.replicate (c.arguments.length - parts.length) none)) := by
  have hfirst := firstValues_invocation h.not_custom h.texts_word h.text_last h.optional_last hmin
    hmax hparts
  have hblank := writtenParts_head_blank hmax hparts
  rw [← String.toList_ofList (l := writtenParts parts)] at hfirst hblank
  have hstart := capturesAtStart?_of_firstValues h.not_custom h.names_word hname hblank hfirst
  exact ⟨captures?_of_capturesAtStart? hstart, hstart⟩

/-- A fixed word of which another one is the beginning, a number and a text. -/
def order : Definition where
  name := "order"
  aliases := ["o"]
  arguments := [{ name := "size", format := .choices ["s", "sm", "l"] },
    { name := "count", format := .type .integer, optional := true },
    { name := "note", format := .type .text, optional := true }]

/-- Values for all arguments of `order`; the last one looks like an invocation itself. -/
def orderParts : List (Char × String) :=
  [(' ', "sm"), ('\t', "2"), ('\n', " o s 1")]

theorem captures?_invocation_order :
    ∃ c : Command, c.toDefinition = order ∧ c.Wordwise ∧ "o" ∈ c.names ∧
      (c.arguments.filter (!·.optional)).length ≤ orderParts.length ∧
      orderParts.length ≤ c.arguments.length ∧
      (∀ p ∈ c.arguments.zip orderParts,
        Text.isBlank p.2.1 = true ∧ p.1.format.Accepts p.2.2) ∧
      c.captures? "o sm\t2\n o s 1" =
        some ⟨[("size", some "sm"), ("count", some "2"), ("note", some " o s 1")]⟩ ∧
      c.capturesAtStart? "o sm\t2\n o s 1" =
        some ⟨[("size", some "sm"), ("count", some "2"), ("note", some " o s 1")]⟩ := by
  have hwordwise : order.Wordwise :=
    ⟨by decide +kernel, by decide, by decide +kernel, by decide, by decide⟩
  have hname : "o" ∈ order.names := List.mem_cons_of_mem _ List.mem_cons_self
  have hparts : ∀ p ∈ order.arguments.zip orderParts,
      Text.isBlank p.2.1 = true ∧ p.1.format.Accepts p.2.2 := by
    have hsize : (Format.choices ["s", "sm", "l"]).Accepts "sm" :=
      List.mem_cons_of_mem _ List.mem_cons_self
    have hcount : (Format.type .integer).Accepts "2" := by
      change ValueType.Accepts .integer "2".toList
      decide
    have hnote : (Format.type .text).Accepts " o s 1" := by
      change ValueType.Accepts .text " o s 1".toList
      decide
    exact List.forall_mem_cons.2 ⟨⟨rfl, hsize⟩, List.forall_mem_cons.2 ⟨⟨rfl, hcount⟩,
      List.forall_mem_cons.2 ⟨⟨rfl, hnote⟩, List.forall_mem_nil _⟩⟩⟩
  have htext : Definition.invocation "o" orderParts = "o sm\t2\n o s 1" := by
    decide +kernel
  have hvalues : order.entries (orderParts.map (some ·.2) ++
      List.replicate (order.arguments.length - orderParts.length) none) =
        ⟨[("size", some "sm"), ("count", some "2"), ("note", some " o s 1")]⟩ := rfl
  obtain ⟨c, hc⟩ : ∃ c : Command, c.toDefinition = order := ⟨order.command rfl, rfl⟩
  rw [← hc] at hwordwise hname hparts hvalues
  have hmin : (c.arguments.filter (!·.optional)).length ≤ orderParts.length := by
    rw [hc]
    decide
  have hmax : orderParts.length ≤ c.arguments.length := by
    rw [hc]
    decide
  have hread := captures?_invocation hwordwise hname hmin hmax hparts
  rw [htext, hvalues] at hread
  exact ⟨c, hc, hwordwise, hname, hmin, hmax, hparts, hread⟩

end Command

end ChatCommand
