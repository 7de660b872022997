import ChatCommand.Settings.Check
import Mathlib.Data.List.TakeWhile

/-!
# Settings that can drive a service

Settings are usable if messages can begin with their sigil, each operator can send messages, and log
lines have somewhere to go (`Settings.Usable`). `Settings.check` accepts these settings and no
others (`Settings.check_eq_ok`), and of all that is wrong with settings it reports the first thing,
in the order of `Settings.Unfit` (`Settings.check_eq_error`).
-/

namespace ChatCommand

/-- Nothing is left of a text without its outer blanks exactly if there is nothing but blanks. -/
theorem Text.trim_eq_empty {s : String} :
    trim s = "" ↔ ∀ c ∈ s.toList, isBlank c = true := by
  rw [trim, String.ofList_eq_empty_iff, trimBlanks, List.reverse_eq_nil_iff,
    List.dropWhile_eq_nil_iff]
  simp only [List.mem_reverse]
  constructor
  · intro h c hc
    rw [← List.takeWhile_append_dropWhile (p := isBlank) (l := s.toList), List.mem_append] at hc
    exact hc.elim List.mem_takeWhile_imp (h c)
  · intro h c hc
    exact h c ((List.dropWhile_sublist _).mem hc)

namespace CommandSettings

variable {c : CommandSettings}

/-- Messages can begin with the sigil, and a text can follow it without a blank. -/
def SigilFits (c : CommandSettings) : Prop :=
  c.sigil ≠ "" ∧ c.sigil.toList.any Text.isBlank = false

/-- No operator has a blank name. -/
def OperatorsFit (c : CommandSettings) : Prop :=
  ∀ o ∈ c.operators, ∃ b ∈ o.toList, Text.isBlank b = false

theorem any_operators :
    (c.operators.any fun o => (Text.trim o).isEmpty) = true ↔ ¬ c.OperatorsFit := by
  simp [OperatorsFit, Text.trim_eq_empty]

/-- Behind a sigil that fits, the check comes to the operators. -/
theorem check_of_sigilFits (h : c.SigilFits) :
    c.check = if c.operators.any fun o => (Text.trim o).isEmpty then .error .blankOperator
      else .ok () := by
  rw [check, if_neg (by simpa using h.1), if_neg (by simp [h.2])]

end CommandSettings

/-- Where log lines go to a file, there is a path. -/
def LogSettings.HasSink (l : LogSettings) : Prop :=
  l.output = .file → l.filePath ≠ none

namespace Settings

/-- The settings can drive a service. -/
structure Usable (s : Settings) : Prop where
  sigil : s.commands.SigilFits
  operators : s.commands.OperatorsFit
  sink : s.logging.HasSink

/-- What is wrong with settings. A fault counts only if there is none of the cases before it. -/
inductive Unfit (s : Settings) : Unusable → Prop
  | emptySigil (h : s.commands.sigil = "") : Unfit s .emptySigil
  | blankInSigil (h : s.commands.sigil.toList.any Text.isBlank = true) :
      Unfit s (.blankInSigil s.commands.sigil)
  | blankOperator (hsigil : s.commands.SigilFits) (h : ¬ s.commands.OperatorsFit) :
      Unfit s .blankOperator
  | noLogFile (hsigil : s.commands.SigilFits) (hoperators : s.commands.OperatorsFit)
      (h : ¬ s.logging.HasSink) : Unfit s .noLogFile

variable {s : Settings} {u : Unusable}

theorem usable_or_unfit (s : Settings) : s.Usable ∨ ∃ u, s.Unfit u := by
  by_cases hne : s.commands.sigil = ""
  · exact .inr ⟨_, .emptySigil hne⟩
  by_cases hblank : s.commands.sigil.toList.any Text.isBlank = true
  · exact .inr ⟨_, .blankInSigil hblank⟩
  have hsigil : s.commands.SigilFits := ⟨hne, Bool.not_eq_true _ ▸ hblank⟩
  by_cases hoperators : s.commands.OperatorsFit
  · by_cases hsink : s.logging.HasSink
    · exact .inl ⟨hsigil, hoperators, hsink⟩
    · exact .inr ⟨_, .noLogFile hsigil hoperators hsink⟩
  · exact .inr ⟨_, .blankOperator hsigil hoperators⟩

theorem Usable.check (h : s.Usable) : s.check = .ok () := by
  rw [Settings.check, CommandSettings.check_of_sigilFits h.sigil,
    if_neg (mt CommandSettings.any_operators.1 (not_not.2 h.operators))]
  exact if_neg fun hfile => h.sink hfile.1 hfile.2

theorem Unfit.check (h : s.Unfit u) : s.check = .error u := by
  cases h with
  | emptySigil h => simp [Settings.check, CommandSettings.check, h]
  | blankInSigil h =>
    have hne : s.commands.sigil.isEmpty ≠ true := by
      intro he
      rw [String.isEmpty_iff.1 he] at h
      cases h
    rw [Settings.check, CommandSettings.check, if_neg hne, if_pos h]
  | blankOperator hsigil h =>
    rw [Settings.check, CommandSettings.check_of_sigilFits hsigil,
      if_pos (CommandSettings.any_operators.2 h)]
  | noLogFile hsigil hoperators h =>
    rw [Settings.check, CommandSettings.check_of_sigilFits hsigil,
      if_neg (mt CommandSettings.any_operators.1 (not_not.2 hoperators))]
    exact if_pos (by simpa [LogSettings.HasSink] using h)

theorem check_eq_ok : s.check = .ok () ↔ s.Usable := by
  refine ⟨fun h => ?_, Usable.check⟩
  obtain husable | ⟨u, hunfit⟩ := usable_or_unfit s
  · exact husable
  · cases h.symm.trans hunfit.check

theorem check_eq_error : s.check = .error u ↔ s.Unfit u := by
  refine ⟨fun h => ?_, Unfit.check⟩
  obtain husable | ⟨v, hunfit⟩ := usable_or_unfit s
  · cases h.symm.trans husable.check
  · obtain rfl := Except.error.inj (h.symm.trans hunfit.check)
    exact hunfit

theorem not_usable_iff : ¬ s.Usable ↔ ∃ u, s.Unfit u := by
  constructor
  · exact fun h => (usable_or_unfit s).resolve_left h
  · rintro ⟨u, hunfit⟩ husable
    cases hunfit.check.symm.trans husable.check

end Settings

end ChatCommand
