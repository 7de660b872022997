import ChatCommand.Path
import Mathlib.Data.List.Infix

/-!
# Parts of paths

What is joined to a directory stands behind its parts (`pieces_join`, `parts_join`), and the parts
of an absolute path that is made of names are these names (`parts_absolute`). The last part of a
path ends like the path (`parts_ending`).
-/

namespace ChatCommand.Path

/-- The part is the name of something in a directory. -/
structure IsName (part : String) : Prop where
  noSlash : '/' ∉ part.toList
  ne_empty : part ≠ ""
  ne_here : part ≠ "."
  ne_up : part ≠ ".."

theorem pieces_eq (path : String) :
    pieces path = (path.toList.splitOnP (· == '/')).map String.ofList := by
  rw [pieces, List.splitOn_eq_splitOnP]

theorem pieces_ne_nil (path : String) : pieces path ≠ [] := by
  simp [pieces_eq, List.splitOnP_ne_nil]

theorem pieces_slash (path name : String) :
    pieces (path ++ "/" ++ name) = pieces path ++ pieces name := by
  have hslash : (path ++ "/" ++ name).toList = path.toList ++ '/' :: name.toList := by simp
  rw [pieces_eq, hslash, List.splitOnP_append_cons _ _ (by simp), List.map_append, pieces_eq,
    pieces_eq]

/-- A name stands behind the parts of the directory that it is joined to. -/
theorem pieces_join {path name : String} (hname : isAbsolute name = false) (hpath : path ≠ "") :
    ∃ before, before ≠ [] ∧ pieces (join path name) = before ++ pieces name ∧
      before.filter (fun p => p != "" && p != ".") = parts path := by
  rw [join, hname, Bool.false_or, if_neg (by simpa using hpath)]
  split
  · rename_i hlast
    obtain ⟨cs, hcs⟩ := List.getLast?_eq_some_iff.1 (beq_iff_eq.1 hlast)
    have hsplit : path = String.ofList cs ++ "/" ++ "" := by
      rw [← String.toList_inj]
      simp [hcs]
    refine ⟨pieces (String.ofList cs), pieces_ne_nil _, ?_, ?_⟩
    · rw [hsplit, String.append_empty, pieces_slash]
    · rw [hsplit, parts, pieces_slash, List.filter_append]
      simp [pieces_eq]
  · exact ⟨pieces path, pieces_ne_nil _, pieces_slash path name, rfl⟩

theorem parts_join {path name : String} (hname : isAbsolute name = false) (hpath : path ≠ "") :
    parts (join path name) = parts path ++ parts name := by
  obtain ⟨before, -, hpieces, hparts⟩ := pieces_join hname hpath
  rw [parts, hpieces, List.filter_append, hparts]
  rfl

theorem isAbsolute_join {path name : String} (hname : isAbsolute name = false)
    (hpath : isAbsolute path = true) : isAbsolute (join path name) = true := by
  obtain ⟨cs, hcs⟩ : ∃ cs, path.toList = '/' :: cs := by
    cases hpath' : path.toList with
    | nil => simp [isAbsolute, hpath'] at hpath
    | cons c cs => simpa [isAbsolute, hpath'] using hpath
  have hne : path.isEmpty = false := by
    rw [← Bool.not_eq_true, String.isEmpty_iff]
    rintro rfl
    cases hcs
  rw [join, hname, hne, Bool.or_false, if_neg Bool.false_ne_true]
  split <;> simp [isAbsolute, hcs]

theorem namesDirectory_join {path name : String} (hname : isAbsolute name = false)
    (hpath : path ≠ "") (hne : name ≠ "") :
    namesDirectory (join path name) = namesDirectory name := by
  obtain ⟨before, hbefore, hpieces, -⟩ := pieces_join hname hpath
  obtain ⟨first, before, rfl⟩ := List.exists_cons_of_ne_nil hbefore
  have hback : (pieces (join path name)).reverse =
      (pieces name).reverse ++ (before.reverse ++ [first]) := by
    simp [hpieces]
  rw [namesDirectory, namesDirectory, hback]
  match hlast : (pieces name).reverse with
  | [] => exact absurd (List.reverse_eq_nil_iff.1 hlast) (pieces_ne_nil name)
  | [last] =>
    have hlast : last ≠ "" := by
      rintro rfl
      have hpieces : pieces name = [""] := by simpa using congrArg List.reverse hlast
      obtain ⟨cs, hcs, hempty⟩ := List.map_eq_singleton_iff.1 hpieces
      have hname : ['/'].intercalate (name.toList.splitOn '/') = name.toList :=
        List.intercalate_splitOn '/'
      rw [hcs, String.ofList_eq_empty_iff.1 hempty] at hname
      exact hne (String.toList_inj.1 hname.symm)
    cases hrest : before.reverse ++ [first] with
    | nil => simp at hrest
    | cons => simp [hlast]
  | last :: _ :: _ => rfl

theorem isAbsolute_absolute (ps : List String) : isAbsolute (absolute ps) = true := by
  simp [isAbsolute, absolute]

theorem parts_absolute {ps : List String} (h : ∀ p ∈ ps, IsName p) : parts (absolute ps) = ps := by
  have hfilter : ps.filter (fun p => p != "" && p != ".") = ps :=
    List.filter_eq_self.2 fun p hp => by simp [(h p hp).ne_empty, (h p hp).ne_here]
  have hsplit : absolute ps = "" ++ "/" ++ "/".intercalate ps := by simp [absolute]
  rw [parts, hsplit, pieces_slash, List.filter_append]
  by_cases hps : ps = []
  · subst hps
    simp [pieces_eq]
  · have hnames : ∀ cs ∈ ps.map String.toList, '/' ∉ cs :=
      List.forall_mem_map.2 fun p hp => (h p hp).noSlash
    have hintercalate : pieces ("/".intercalate ps) = ps := by
      rw [pieces, String.toList_intercalate, show "/".toList = ['/'] from rfl,
        List.splitOn_intercalate '/' hnames (by simpa using hps)]
      simp
    rw [hintercalate, hfilter]
    simp [pieces_eq]

theorem splitOnP_ending {cs ending : List Char} (h : ending <:+ cs) (hslash : '/' ∉ ending) :
    ∃ front last, cs.splitOnP (· == '/') = front ++ [last] ∧ ending <:+ last := by
  obtain ⟨before, rfl⟩ := h
  induction before with
  | nil =>
    refine ⟨[], ending, ?_, List.suffix_refl _⟩
    refine List.splitOnP_eq_singleton fun c hc => beq_eq_false_iff_ne.2 ?_
    rintro rfl
    exact hslash hc
  | cons c before ih =>
    obtain ⟨front, last, hsplit, hlast⟩ := ih
    rw [List.cons_append, List.splitOnP_cons_eq_if_modifyHead, hsplit]
    split
    · exact ⟨[] :: front, last, rfl, hlast⟩
    · cases front with
      | nil => exact ⟨[], c :: last, rfl, hlast.trans (List.suffix_cons c last)⟩
      | cons piece front => exact ⟨(c :: piece) :: front, last, rfl, hlast⟩

/-- The last part of a path ends like the path, so far as that has no slash. -/
theorem parts_ending {path : String} {ending : List Char} (h : ending <:+ path.toList)
    (hne : ending ≠ []) (hslash : '/' ∉ ending) (hpoint : '.' ∉ ending) :
    ∃ front name, parts path = front ++ [name] ∧ name ≠ ".." ∧ ending <:+ name.toList := by
  obtain ⟨front, last, hsplit, hlast⟩ := splitOnP_ending h hslash
  obtain ⟨c, hc⟩ := List.exists_mem_of_ne_nil _ hne
  have hpoints {s : String} (hs : ∀ c ∈ s.toList, c = '.') : String.ofList last ≠ s := by
    rintro rfl
    have hc' := hs c (by simpa using hlast.mem hc)
    exact hpoint (hc' ▸ hc)
  refine ⟨(front.map String.ofList).filter (fun p => p != "" && p != "."), String.ofList last, ?_,
    hpoints (by simp), by simpa using hlast⟩
  have hempty : String.ofList last ≠ "" := hpoints (by simp)
  have hhere : String.ofList last ≠ "." := hpoints (by simp)
  rw [parts, pieces_eq, hsplit, List.map_append, List.filter_append]
  simp [hempty, hhere]

end ChatCommand.Path
