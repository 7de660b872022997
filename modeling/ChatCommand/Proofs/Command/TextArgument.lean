import ChatCommand.Proofs.Command.Invocation

/-!
# Texts as last arguments

A command may end in a text, behind arguments that take a word each (`Definition.EndsInText`). Words
are read off an invocation one by one (`firstValues_words`), and all that is left is the text, with
the blanks in it. Only a line feed is no part of a text: `Command.capturesAtStart?_text` shows that
the rest of an invocation is the value of the last argument if there is no line feed in it, and that
the invocation is not accepted otherwise.
-/

namespace ChatCommand

/-- All arguments are required. The last one is a text, and each other one takes a word. -/
structure Definition.EndsInText (d : Definition) : Prop extends Definition.Wordwise d where
  required : ∀ a ∈ d.arguments, a.optional = false
  text : ∃ words a, d.arguments = words ++ [a] ∧ a.format = .type .text

/-! ## Reading on behind words -/

theorem writtenParts_append (parts parts' : List (Char × String)) :
    writtenParts (parts ++ parts') = writtenParts parts ++ writtenParts parts' :=
  List.flatMap_append

/-- Words that are written in front of a text are read off it, and the rest is read on. -/
theorem firstValues_words {words as : List Argument} {parts : List (Char × String)} {cs : List Char}
    (hcustom : ∀ a ∈ words ++ as, a.format.isCustom = false)
    (htexts : ∀ a ∈ words, ∀ t ∈ a.format.texts, t.toList.any Text.isBlank = false)
    (hword : ∀ a ∈ words, a.format ≠ .type .text) (hopt : ∀ a ∈ words, a.optional = false)
    (hlength : parts.length = words.length)
    (hparts : ∀ p ∈ words.zip parts, Text.isBlank p.2.1 = true ∧ p.1.format.Accepts p.2.2)
    (hcs : ∀ b ∈ cs.head?, Text.isBlank b = true) :
    firstValues (words ++ as) (writtenParts parts ++ cs) =
      (firstValues as cs).map (parts.map (some ·.2) ++ ·) := by
  induction words generalizing parts with
  | nil =>
    obtain rfl := List.length_eq_zero_iff.1 hlength
    simp [writtenParts]
  | cons a words ih =>
    cases parts with
    | nil => cases hlength
    | cons p parts =>
      obtain ⟨b, v⟩ := p
      obtain ⟨hca, hcas⟩ := List.forall_mem_cons.1 hcustom
      obtain ⟨hta, htas⟩ := List.forall_mem_cons.1 htexts
      obtain ⟨hwa, hwas⟩ := List.forall_mem_cons.1 hword
      obtain ⟨hoa, hoas⟩ := List.forall_mem_cons.1 hopt
      obtain ⟨⟨hb, hv⟩, hrest⟩ := List.forall_mem_cons.1 hparts
      have hlength : parts.length = words.length := Nat.succ.inj hlength
      have hblank : ∀ b ∈ (writtenParts parts ++ cs).head?, Text.isBlank b = true := by
        rw [List.head?_append]
        intro b hb
        obtain hb | ⟨-, hb⟩ := Option.or_eq_some_iff.1 hb
        · exact writtenParts_head_blank hlength.le hrest b hb
        · exact hcs b hb
      have hwritten : writtenParts ((b, v) :: parts) ++ cs =
          b :: (v.toList ++ (writtenParts parts ++ cs)) :=
        congrArg (b :: ·) (List.append_assoc ..)
      have hfirst : a.firstPresent (firstValues (words ++ as))
          (b :: (v.toList ++ (writtenParts parts ++ cs))) =
            (firstValues (words ++ as) (writtenParts parts ++ cs)).map (some v :: ·) :=
        firstPresent_word hca hta hwa hcas hb hv hblank
      rw [hwritten, List.cons_append, firstValues, hfirst, hoa,
        ih hcas htas hwas hoas hlength hrest]
      simp [Function.comp_def]

/-- What is left for a text is its value, unless there is a line feed in it. -/
theorem firstValues_text {a : Argument} (ha : a.format = .type .text) (hopt : a.optional = false)
    {b : Char} (hb : Text.isBlank b = true) {s : String} (hs : s ≠ "") :
    firstValues [a] (b :: s.toList) = if '\n' ∈ s.toList then none else some [some s] := by
  have hcustom : a.format.isCustom = false := by
    rw [ha]
    rfl
  split
  · -- Values that are found spell all that is left, and no text has a line feed in it.
    rename_i hfeed
    rw [Option.eq_none_iff_forall_ne_some]
    intro vs hvs
    obtain ⟨hsp, -⟩ := firstValues_first (List.forall_mem_singleton.2 hcustom) hvs
    generalize hcs : b :: s.toList = cs at hsp
    cases hsp with
    | absent h _ =>
      rw [hopt] at h
      cases h
    | @present _ _ _ v _ _ _ hv hnil =>
      cases hnil
      obtain ⟨-, hv⟩ : v.toList ≠ [] ∧ ∀ c ∈ v.toList, c ≠ '\n' := by
        rw [ha] at hv
        exact hv
      rw [List.append_nil, List.cons.injEq] at hcs
      exact hv '\n' (hcs.2 ▸ hfeed) rfl
  · rename_i hfeed
    have hv : a.format.Accepts s := by
      rw [ha]
      exact ⟨fun he => hs (String.toList_eq_nil_iff.1 he), fun c hc he => hfeed (he ▸ hc)⟩
    have hfirst : a.firstPresent (firstValues []) (b :: (s.toList ++ [])) =
        (firstValues [] []).map (some s :: ·) := by
      refine firstPresent_eq hcustom hb hv fun w tail heq _ hsome => ?_
      obtain ⟨vs, hvs⟩ := Option.isSome_iff_exists.1 hsome
      obtain ⟨hsp, -⟩ := firstValues_first (List.forall_mem_nil _) hvs
      cases hsp
      rw [← String.toList_inj]
      simpa using heq.symm
    rw [List.append_nil] at hfirst
    rw [firstValues, hfirst, hopt]
    rfl

/-! ## Commands that end in a text -/

/-- Behind the words of an invocation, all that is left is the text. -/
theorem Definition.EndsInText.firstValues_eq {d : Definition} (h : d.EndsInText)
    {parts : List (Char × String)} (hlength : parts.length + 1 = d.arguments.length)
    (hparts : ∀ p ∈ d.arguments.zip parts, Text.isBlank p.2.1 = true ∧ p.1.format.Accepts p.2.2)
    {b : Char} (hb : Text.isBlank b = true) {s : String} (hs : s ≠ "") :
    firstValues d.arguments (writtenParts (parts ++ [(b, s)])) =
      if '\n' ∈ s.toList then none else some ((parts ++ [(b, s)]).map (some ·.2)) := by
  have hcustom := h.not_custom
  have htexts := h.texts_word
  have hlast := h.text_last
  have hopt := h.required
  obtain ⟨words, a, harguments, ha⟩ := h.text
  rw [harguments] at hcustom htexts hlast hopt hlength hparts ⊢
  rw [List.dropLast_concat] at hlast
  have hwords : parts.length = words.length := by simpa using hlength
  have hzip : (words ++ [a]).zip parts = words.zip parts := by
    have happend : (words ++ [a]).zip (parts ++ []) = words.zip parts ++ [a].zip [] :=
      List.zip_append hwords.symm
    rwa [List.append_nil, List.zip_nil_right, List.append_nil] at happend
  have hwritten : writtenParts (parts ++ [(b, s)]) = writtenParts parts ++ b :: s.toList := by
    rw [writtenParts_append]
    simp [writtenParts]
  have hblank : ∀ b' ∈ (b :: s.toList).head?, Text.isBlank b' = true := by
    rintro _ ⟨⟩
    exact hb
  obtain ⟨hopts, hopta⟩ := List.forall_mem_append.1 hopt
  rw [hwritten, firstValues_words hcustom (List.forall_mem_append.1 htexts).1 hlast hopts hwords
    (hzip ▸ hparts) hblank, firstValues_text ha (hopta a List.mem_cons_self) hb hs]
  split <;> simp

namespace Command

variable {c : Command}

/-- A command that ends in a text takes all that is left behind its words for the text, if there is
no line feed in it. Otherwise it does not accept the invocation. -/
theorem capturesAtStart?_text (h : c.EndsInText) {name : String} (hname : name ∈ c.names)
    {parts : List (Char × String)} (hlength : parts.length + 1 = c.arguments.length)
    (hparts : ∀ p ∈ c.arguments.zip parts, Text.isBlank p.2.1 = true ∧ p.1.format.Accepts p.2.2)
    {b : Char} (hb : Text.isBlank b = true) {s : String} (hs : s ≠ "") :
    c.capturesAtStart? (Definition.invocation name (parts ++ [(b, s)])) =
      if '\n' ∈ s.toList then none else some (c.entries ((parts ++ [(b, s)]).map (some ·.2))) := by
  have hblank : ∀ b' ∈ (writtenParts (parts ++ [(b, s)])).head?, Text.isBlank b' = true := by
    cases parts with
    | nil =>
      rintro _ ⟨⟩
      exact hb
    | cons p parts =>
      have hfirst := writtenParts_head_blank (Nat.le_of_succ_le hlength.le) hparts
      rintro _ ⟨⟩
      exact hfirst p.1 rfl
  rw [Definition.invocation, capturesAtStart?_eq_firstValues h.not_custom h.names_word hname,
    String.toList_ofList, h.firstValues_eq hlength hparts hb hs]
  · split <;> rfl
  · rwa [String.toList_ofList]

/-- A word, a number and a fixed word in front of a text. -/
def mail : Definition where
  name := "mail"
  aliases := ["m"]
  arguments := [{ name := "to", format := .type .string },
    { name := "copies", format := .type .integer },
    { name := "kind", format := .choices ["note", "letter"] },
    { name := "body", format := .type .text }]

/-- Values for the arguments of `mail` before its text. -/
def mailParts : List (Char × String) :=
  [(' ', "ann"), ('\t', "2"), ('\n', "note")]

/-- A text may begin and end with blanks, and it may look like values of the other arguments. -/
theorem capturesAtStart?_text_mail :
    ∃ c : Command, c.toDefinition = mail ∧ c.EndsInText ∧ "m" ∈ c.names ∧
      mailParts.length + 1 = c.arguments.length ∧
      (∀ p ∈ c.arguments.zip mailParts,
        Text.isBlank p.2.1 = true ∧ p.1.format.Accepts p.2.2) ∧
      Text.isBlank ' ' = true ∧ " bob 3\r note\t" ≠ "" ∧
      c.capturesAtStart? "m ann\t2\nnote  bob 3\r note\t" =
        some ⟨[("to", some "ann"), ("copies", some "2"), ("kind", some "note"),
          ("body", some " bob 3\r note\t")]⟩ := by
  have hwordwise : mail.Wordwise :=
    ⟨by decide +kernel, by decide, by decide +kernel, by decide, by decide⟩
  have hends : mail.EndsInText :=
    ⟨hwordwise, by decide, mail.arguments.dropLast, _, rfl, rfl⟩
  have hname : "m" ∈ mail.names := List.mem_cons_of_mem _ List.mem_cons_self
  have hparts : ∀ p ∈ mail.arguments.zip mailParts,
      Text.isBlank p.2.1 = true ∧ p.1.format.Accepts p.2.2 := by
    have hto : (Format.type .string).Accepts "ann" := by
      change ValueType.Accepts .string "ann".toList
      decide +kernel
    have hcopies : (Format.type .integer).Accepts "2" := by
      change ValueType.Accepts .integer "2".toList
      decide
    have hkind : (Format.choices ["note", "letter"]).Accepts "note" := List.mem_cons_self
    exact List.forall_mem_cons.2 ⟨⟨rfl, hto⟩, List.forall_mem_cons.2 ⟨⟨rfl, hcopies⟩,
      List.forall_mem_cons.2 ⟨⟨rfl, hkind⟩, List.forall_mem_nil _⟩⟩⟩
  have hs : " bob 3\r note\t" ≠ "" := by decide
  have htext : Definition.invocation "m" (mailParts ++ [(' ', " bob 3\r note\t")]) =
      "m ann\t2\nnote  bob 3\r note\t" := by
    decide +kernel
  obtain ⟨c, hc⟩ : ∃ c : Command, c.toDefinition = mail := ⟨mail.command rfl, rfl⟩
  have hvalues : mail.entries ((mailParts ++ [(' ', " bob 3\r note\t")]).map (some ·.2)) =
      ⟨[("to", some "ann"), ("copies", some "2"), ("kind", some "note"),
        ("body", some " bob 3\r note\t")]⟩ := rfl
  have hlength : mailParts.length + 1 = mail.arguments.length := rfl
  rw [← hc] at hends hname hparts hvalues hlength
  have hread := capturesAtStart?_text hends hname hlength hparts (b := ' ') rfl hs
  rw [htext, if_neg (by decide), hvalues] at hread
  exact ⟨c, hc, hends, hname, hlength, hparts, rfl, hs, hread⟩

/-- Nothing but a text. -/
def remark : Definition where
  name := "say"
  arguments := [{ name := "message", format := .type .text }]

/-- A text of two lines is not taken, nor is its first line. -/
theorem capturesAtStart?_text_lineFeed :
    ∃ c : Command, c.toDefinition = remark ∧ c.EndsInText ∧ "say" ∈ c.names ∧
      c.capturesAtStart? (Definition.invocation "say" [(' ', "a\nb")]) = none ∧
      c.capturesAtStart? (Definition.invocation "say" [(' ', "a\nb")]) ≠
        some (c.entries [some "a\nb"]) := by
  have hwordwise : remark.Wordwise :=
    ⟨by decide +kernel, by decide, by decide, by decide, by decide⟩
  have hends : remark.EndsInText := ⟨hwordwise, by decide, [], _, rfl, rfl⟩
  have hnone : (remark.command rfl).capturesAtStart?
      (Definition.invocation "say" [(' ', "a\nb")]) = none := by
    decide +kernel
  refine ⟨_, rfl, hends, List.mem_cons_self, hnone, fun h => ?_⟩
  cases hnone.symm.trans h

end Command

end ChatCommand
