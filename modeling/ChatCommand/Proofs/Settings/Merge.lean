import ChatCommand.Settings.Environment
import Mathlib.Data.String.Basic

/-!
# Merged trees

What a merged tree holds, key by key (`Node.get?_mergeEntries`) and path by path. `Node.along` cuts
a tree down to what it says on one path. If a later tree says something there, then the merged tree
says the same; otherwise it says what the earlier one does. This needs that neither tree gets in the
way of the other: `Node.Shaped` trees have tables on the way and none at the end of the path
(`along_merge_of_earlier`, `along_merge_of_later`, `along_merge_of_silent`).

All trees that settings are loaded from have their keys in order, none of them twice
(`Node.Sorted`), and so have merged trees (`Node.Sorted.merge`).
-/

namespace ChatCommand.Settings

/-! ## Entries -/

namespace Entries

variable {α : Type} {es : Entries α} {k : String}

/-- The keys are in order, and none of them is there twice. -/
def Ordered (es : Entries α) : Prop :=
  es.Pairwise fun e f => e.1 < f.1

@[simp]
theorem get?_cons (e : String × α) (es : Entries α) (k : String) :
    Entries.get? (e :: es) k = if k = e.1 then some e.2 else Entries.get? es k := by
  obtain ⟨j, v⟩ := e
  simp only [get?, List.lookup_cons]
  by_cases h : k = j
  · simp [h]
  · simp [h, beq_eq_false_iff_ne.2 h]

theorem get?_insert_self (key : String) (value : α) (es : Entries α) :
    (es.insert key value).get? key = some value := by
  induction es with
  | nil => simp [insert]
  | cons e es ih =>
    rw [insert]
    split
    · simp
    · split
      · simp
      · rename_i hne
        simp [hne, ih]

theorem get?_insert_of_ne {key : String} (h : k ≠ key) (value : α) (es : Entries α) :
    (es.insert key value).get? k = es.get? k := by
  induction es with
  | nil => simp [insert, h]
  | cons e es ih =>
    rw [insert]
    split
    · simp [h]
    · split
      · rename_i heq
        simp [← heq, h]
      · simp [ih]

theorem mem_of_get? {value : α} (h : es.get? k = some value) : (k, value) ∈ es := by
  obtain ⟨front, back, rfl, -⟩ := List.lookup_eq_some_iff.1 h
  exact List.mem_append_cons_self

theorem mem_insert {key : String} {value : α} {e : String × α} (h : e ∈ es.insert key value) :
    e = (key, value) ∨ e ∈ es := by
  induction es with
  | nil => exact .inl (List.mem_singleton.1 h)
  | cons f es ih =>
    rw [insert] at h
    split at h
    · exact List.mem_cons.1 h
    · split at h
      · exact (List.mem_cons.1 h).imp_right (List.mem_cons_of_mem _)
      · rcases List.mem_cons.1 h with rfl | h
        · exact .inr List.mem_cons_self
        · exact (ih h).imp_right (List.mem_cons_of_mem _)

theorem insert_of_lt {key : String} (h : ∀ e ∈ es, key < e.1) (value : α) :
    es.insert key value = (key, value) :: es := by
  cases es with
  | nil => rfl
  | cons e es => rw [insert, if_pos (h e List.mem_cons_self)]

theorem Ordered.insert (h : es.Ordered) (key : String) (value : α) :
    (es.insert key value).Ordered := by
  induction es with
  | nil => exact List.pairwise_singleton _ _
  | cons e es ih =>
    obtain ⟨he, hes⟩ := List.pairwise_cons.1 h
    rw [Entries.insert]
    split
    · rename_i hlt
      refine List.pairwise_cons.2 ⟨fun f hf => ?_, h⟩
      rcases List.mem_cons.1 hf with rfl | hf
      · exact hlt
      · exact lt_trans hlt (he f hf)
    · split
      · rename_i heq
        exact List.pairwise_cons.2 ⟨fun f hf => heq ▸ he f hf, hes⟩
      · rename_i hge hne
        refine List.pairwise_cons.2 ⟨fun f hf => ?_, ih hes⟩
        rcases mem_insert hf with rfl | hf
        · exact lt_of_le_of_ne (not_lt.1 hge) (Ne.symm hne)
        · exact he f hf

theorem Ordered.nodup (h : es.Ordered) : (es.map (·.1)).Nodup :=
  List.pairwise_map.2 (h.imp fun hlt => ne_of_lt hlt)

end Entries

namespace Node

/-! ## Trees with their keys in order -/

/-- In all tables, the keys are in order and none of them is there twice. -/
inductive Sorted : Node → Prop
  | scalar {o : Origin} {s : Scalar} : Sorted (.scalar o s)
  | list {o : Origin} {items : List Node} : Sorted (.list o items)
  | table {o : Origin} {es : Entries Node} :
      es.Ordered → (∀ e ∈ es, Sorted e.2) → Sorted (.table o es)

/-- So they are, and so are those in the values. -/
def SortedEntries (es : Entries Node) : Prop :=
  es.Ordered ∧ ∀ e ∈ es, Sorted e.2

theorem SortedEntries.insert {es : Entries Node} (h : SortedEntries es) (k : String) {n : Node}
    (hn : n.Sorted) : SortedEntries (es.insert k n) := by
  refine ⟨h.1.insert k n, fun e he => ?_⟩
  rcases Entries.mem_insert he with rfl | he
  · exact hn
  · exact h.2 e he

theorem Sorted.entries {o : Origin} {es : Entries Node} (h : Sorted (.table o es)) :
    SortedEntries es := by
  cases h with
  | table hordered hvalues => exact ⟨hordered, hvalues⟩

theorem Sorted.of_entries {o : Origin} {es : Entries Node} (h : SortedEntries es) :
    Sorted (.table o es) :=
  .table h.1 h.2

theorem SortedEntries.cons {e : String × Node} {es : Entries Node} (h : SortedEntries (e :: es)) :
    e.2.Sorted ∧ SortedEntries es :=
  ⟨h.2 e List.mem_cons_self, (List.pairwise_cons.1 h.1).2,
    fun f hf => h.2 f (List.mem_cons_of_mem _ hf)⟩

theorem SortedEntries.get? {es : Entries Node} (h : SortedEntries es) {k : String} {n : Node}
    (hn : es.get? k = some n) : n.Sorted :=
  h.2 (k, n) (Entries.mem_of_get? hn)

/-! ## Merging -/

/-- The entries of a table. -/
def entries? : Node → Option (Entries Node)
  | table _ es => some es
  | _ => none

theorem merge_tables (o o' : Origin) (es later : Entries Node) :
    merge (.table o es) (.table o' later) = .table o' (mergeEntries es later) := by
  rw [merge]

/-- What is no table replaces, and is replaced. -/
theorem merge_of_not_tables {e l : Node} (h : e.entries? = none ∨ l.entries? = none) :
    e.merge l = l := by
  cases l with
  | table o later =>
    cases e with
    | table o' es => rcases h with h | h <;> cases h
    | _ => simp [merge]
  | _ => simp [merge]

theorem get?_mergeEntries (es later : Entries Node) (k : String) :
    Entries.get? (mergeEntries es later) k =
      ((later.get? k).map fun n => (es.get? k).elim n (merge · n)).or (es.get? k) := by
  induction later with
  | nil => simp [mergeEntries, Entries.get?]
  | cons e later ih =>
    obtain ⟨j, n⟩ := e
    rw [mergeEntries]
    by_cases h : k = j
    · subst h
      rw [Entries.get?_insert_self]
      cases es.get? k <;> simp
    · rw [Entries.get?_insert_of_ne h, ih]
      simp [h]

theorem mergeEntries_nil {es : Entries Node} (h : es.Ordered) : mergeEntries [] es = es := by
  induction es with
  | nil => rw [mergeEntries]
  | cons e es ih =>
    obtain ⟨hlt, hes⟩ := List.pairwise_cons.1 h
    obtain ⟨k, n⟩ := e
    rw [mergeEntries, ih hes]
    exact Entries.insert_of_lt hlt n

theorem merge_empty {o : Origin} {n : Node} (h : n.Sorted) : (Node.table o []).merge n = n := by
  cases n with
  | table o es => rw [merge_tables, mergeEntries_nil h.entries.1]
  | _ => exact merge_of_not_tables (.inr rfl)

mutual

theorem Sorted.merge {e : Node} (he : e.Sorted) : ∀ {l : Node}, l.Sorted → (e.merge l).Sorted
  | .scalar _ _, hl => by rwa [merge_of_not_tables (.inr rfl)]
  | .list _ _, hl => by rwa [merge_of_not_tables (.inr rfl)]
  | .table o later, hl => by
    cases e with
    | table o' es =>
      rw [merge_tables]
      exact .of_entries (SortedEntries.merge he.entries hl.entries)
    | _ => rwa [merge_of_not_tables (.inl rfl)]

theorem SortedEntries.merge {es : Entries Node} (he : SortedEntries es) :
    ∀ {later : List (String × Node)}, SortedEntries later → SortedEntries (mergeEntries es later)
  | [], _ => by rwa [mergeEntries]
  | (k, n) :: later, hl => by
    obtain ⟨hn, hlater⟩ := hl.cons
    rw [mergeEntries]
    refine (SortedEntries.merge he hlater).insert k ?_
    cases hk : Entries.get? es k with
    | none => exact hn
    | some e => exact Sorted.merge (he.get? hk) hn

end

/-! ## Trees from data -/

mutual

theorem sorted_toNode (o : Origin) : ∀ d : Data, (d.toNode o).Sorted
  | .scalar _ => .scalar
  | .list _ => .list
  | .table es => .of_entries (sorted_entriesToNodes o es)

theorem sorted_entriesToNodes (o : Origin) :
    ∀ es : List (String × Data), SortedEntries (Data.entriesToNodes o es)
  | [] => ⟨.nil, List.forall_mem_nil _⟩
  | (k, d) :: es => by
    have hrest := sorted_entriesToNodes o es
    rw [Data.entriesToNodes]
    split
    · exact hrest
    · exact hrest.insert k (sorted_toNode o d)

end

theorem sorted_atPath {n : Node} (h : n.Sorted) (path : List String) :
    (Environment.atPath n path).Sorted := by
  induction path with
  | nil => exact h
  | cons k ks ih => exact .table (List.pairwise_singleton _ _) (by simpa using ih)

theorem sorted_foldl {base : Node} (hbase : base.Sorted) {ns : List Node}
    (hns : ∀ n ∈ ns, n.Sorted) : (ns.foldl merge base).Sorted := by
  induction ns generalizing base with
  | nil => exact hbase
  | cons n ns ih =>
    obtain ⟨hn, hns⟩ := List.forall_mem_cons.1 hns
    exact ih (hbase.merge hn) hns

theorem sorted_environment (e : Environment) : e.settings.Sorted := by
  refine sorted_foldl (.table .nil (List.forall_mem_nil _)) fun n hn => ?_
  obtain ⟨⟨name, value⟩, -, hname⟩ := List.mem_filterMap.1 hn
  obtain ⟨path, -, rfl⟩ := Option.map_eq_some_iff.1 hname
  exact sorted_atPath (sorted_toNode _ _) path

/-! ## Paths -/

/-- The node that a path leads to, through tables. -/
def at? : Node → List String → Option Node
  | n, [] => some n
  | .table _ es, k :: ks => (Entries.get? es k).bind (at? · ks)
  | _, _ :: _ => none

/-- What a tree says on a path: so much of it as the path runs through. Where there is a value that
is no table, it has the say on all paths that lead there. -/
def along : Node → List String → Option Node
  | n, [] => some n
  | .table _ es, k :: ks =>
    ((Entries.get? es k).bind (along · ks)).map fun n => .table .program [(k, n)]
  | n, _ :: _ => some n

/-- So far as the path leads in the tree, there are tables on the way and none at its end. -/
def Shaped : Node → List String → Prop
  | .table _ _, [] => False
  | _, [] => True
  | .table _ es, k :: ks => ∀ n, Entries.get? es k = some n → n.Shaped ks
  | _, _ :: _ => False

instance decidableShaped : ∀ (n : Node) (path : List String), Decidable (n.Shaped path)
  | .table _ _, [] => isFalse id
  | .scalar _ _, [] => isTrue trivial
  | .list _ _, [] => isTrue trivial
  | .table _ es, k :: ks =>
    match h : Entries.get? es k with
    | none => isTrue fun n hn => by simp [h] at hn
    | some m =>
      match decidableShaped m ks with
      | isTrue hm => isTrue fun n hn => Option.some.inj (h.symm.trans hn) ▸ hm
      | isFalse hm => isFalse fun hall => hm (hall m h)
  | .scalar _ _, _ :: _ => isFalse id
  | .list _ _, _ :: _ => isFalse id

theorem Shaped.merge {e l : Node} {path : List String} (he : e.Shaped path) (hl : l.Shaped path) :
    (e.merge l).Shaped path := by
  induction path generalizing e l with
  | nil =>
    cases e with
    | table _ _ => exact he.elim
    | _ => rwa [merge_of_not_tables (.inl rfl)]
  | cons k ks ih =>
    cases e with
    | table o es =>
      cases l with
      | table o' later =>
        rw [merge_tables]
        intro n hn
        rw [get?_mergeEntries] at hn
        cases hlk : Entries.get? later k with
        | none => exact he n (by simpa [hlk] using hn)
        | some m =>
          cases hek : Entries.get? es k with
          | none =>
            obtain rfl : m = n := by simpa [hlk, hek] using hn
            exact hl m hlk
          | some e =>
            obtain rfl : e.merge m = n := by simpa [hlk, hek] using hn
            exact ih (he e hek) (hl m hlk)
      | _ => exact hl.elim
    | _ => exact he.elim

/-- Over a tree that has no table at the end of the path, a later tree has the last word, if it says
anything. -/
theorem along_merge_of_earlier {e : Node} {path : List String} (he : e.Shaped path) (l : Node) :
    (e.merge l).along path = (l.along path).or (e.along path) := by
  induction path generalizing e l with
  | nil =>
    cases e with
    | table _ _ => exact he.elim
    | _ =>
      rw [merge_of_not_tables (.inl rfl)]
      simp [along]
  | cons k ks ih =>
    cases l with
    | table o' later =>
      cases e with
      | table o es =>
        rw [merge_tables]
        simp only [along, get?_mergeEntries]
        cases hlk : Entries.get? later k with
        | none => simp
        | some m =>
          cases hek : Entries.get? es k with
          | none => simp
          | some e => cases h : m.along ks <;> simp [ih (he e hek) m, h]
      | _ => exact he.elim
    | _ =>
      rw [merge_of_not_tables (.inr rfl)]
      simp [along]

/-- A later tree that has something other than a table to say has the last word. -/
theorem along_merge_of_later {l : Node} {path : List String} (hl : l.Shaped path)
    (hsome : (l.along path).isSome) (e : Node) : (e.merge l).along path = l.along path := by
  induction path generalizing e l with
  | nil =>
    cases l with
    | table _ _ => exact hl.elim
    | _ => rw [merge_of_not_tables (.inr rfl)]
  | cons k ks ih =>
    cases l with
    | table o' later =>
      cases e with
      | table o es =>
        rw [merge_tables]
        simp only [along, get?_mergeEntries] at hsome ⊢
        cases hlk : Entries.get? later k with
        | none => simp [hlk] at hsome
        | some m =>
          cases hek : Entries.get? es k with
          | none => simp
          | some e => simp [ih (hl m hlk) (by simpa [hlk] using hsome) e]
      | _ => rw [merge_of_not_tables (.inl rfl)]
    | _ => exact hl.elim

/-- Where a later tree says nothing, all that the merged tree says is from the earlier one. -/
theorem along_merge_of_silent {l : Node} {path : List String} (hl : l.along path = none)
    {e x : Node} (h : (e.merge l).along path = some x) : e.along path = some x := by
  induction path generalizing e l x with
  | nil => cases hl
  | cons k ks ih =>
    cases l with
    | table o' later =>
      cases e with
      | table o es =>
        rw [merge_tables] at h
        simp only [along, get?_mergeEntries, Option.map_eq_none_iff, Option.map_eq_some_iff]
          at hl h ⊢
        obtain ⟨y, hy, rfl⟩ := h
        refine ⟨y, ?_, rfl⟩
        cases hlk : Entries.get? later k with
        | none => simpa [hlk] using hy
        | some m =>
          rw [hlk] at hl hy
          cases hek : Entries.get? es k with
          | none => simp [hek, show m.along ks = none from hl] at hy
          | some e => exact ih hl (by simpa [hek] using hy)
      | _ =>
        rw [merge_of_not_tables (.inl rfl), hl] at h
        cases h
    | _ => cases hl

theorem isSome_at?_of_merge {e l : Node} {path : List String}
    (h : ((e.merge l).at? path).isSome) : (e.at? path).isSome ∨ (l.at? path).isSome := by
  induction path generalizing e l with
  | nil => exact .inr (by cases l <;> rfl)
  | cons k ks ih =>
    cases l with
    | table o' later =>
      cases e with
      | table o es =>
        rw [merge_tables] at h
        simp only [at?, get?_mergeEntries] at h ⊢
        cases hlk : Entries.get? later k with
        | none => exact .inl (by simpa [hlk] using h)
        | some m =>
          cases hek : Entries.get? es k with
          | none => exact .inr (by simpa [hlk, hek] using h)
          | some e => exact ih (by simpa [hlk, hek] using h)
      | _ =>
        rw [merge_of_not_tables (.inl rfl)] at h
        exact .inr h
    | _ =>
      rw [merge_of_not_tables (.inr rfl)] at h
      exact .inr h

section Missing

variable {o : Origin} {es : Entries Node} {k : String}

theorem along_of_missing (hk : Entries.get? es k = none) {front : List String} {n : Node}
    (hn : n.at? front = some (.table o es)) : n.along (front ++ [k]) = none := by
  induction front generalizing n with
  | nil =>
    obtain rfl : n = .table o es := by cases n <;> exact Option.some.inj hn
    simp [along, hk]
  | cons j front ih =>
    cases n with
    | table o' fs =>
      obtain ⟨m, hm, hfront⟩ := Option.bind_eq_some_iff.1 hn
      simp [along, hm, ih hfront]
    | _ => cases hn

/-- Where a later tree has a table without the key, the key of a merged tree is from the earlier
one. -/
theorem isSome_at?_of_missing (hk : Entries.get? es k = none) {front : List String} {e l : Node}
    (hl : l.at? front = some (.table o es)) (h : ((e.merge l).along (front ++ [k])).isSome) :
    (e.at? (front ++ [k])).isSome := by
  induction front generalizing e l with
  | nil =>
    obtain rfl : l = .table o es := by cases l <;> exact Option.some.inj hl
    cases e with
    | table o' fs =>
      rw [merge_tables] at h
      simpa [along, at?, get?_mergeEntries, hk] using h
    | _ =>
      rw [merge_of_not_tables (.inl rfl), along_of_missing hk hl] at h
      cases h
  | cons j front ih =>
    cases l with
    | table o' later =>
      obtain ⟨m, hm, hfront⟩ := Option.bind_eq_some_iff.1 hl
      cases e with
      | table o' fs =>
        rw [merge_tables] at h
        simp only [List.cons_append, along, get?_mergeEntries, hm] at h
        cases hj : Entries.get? fs j with
        | none =>
          simp [hj, along_of_missing hk hfront] at h
        | some e =>
          have hat := ih hfront (by simpa [hj] using h)
          simpa [at?, hj] using hat
      | _ =>
        rw [merge_of_not_tables (.inl rfl), along_of_missing hk hl] at h
        cases h
    | _ => cases hl

end Missing

/-! ## Trees merged one after another -/

theorem isSome_at?_of_foldl {path : List String} {ns : List Node} {base : Node}
    (h : ((ns.foldl merge base).at? path).isSome) :
    (base.at? path).isSome ∨ ∃ n ∈ ns, (n.at? path).isSome := by
  induction ns generalizing base with
  | nil => exact .inl h
  | cons n ns ih =>
    rcases ih h with hbase | ⟨m, hm, hsome⟩
    · exact (isSome_at?_of_merge hbase).imp_right fun hn => ⟨n, List.mem_cons_self, hn⟩
    · exact .inr ⟨m, List.mem_cons_of_mem _ hm, hsome⟩

/-- Of the trees that say anything on the path, the last one says `x`. -/
def LastWord (ns : List Node) (path : List String) (x : Node) : Prop :=
  ∃ before n after, ns = before ++ n :: after ∧ n.along path = some x ∧
    ∀ m ∈ after, m.along path = none

theorem LastWord.append_left {ns : List Node} {path : List String} {x : Node}
    (h : LastWord ns path x) (front : List Node) : LastWord (front ++ ns) path x := by
  obtain ⟨before, n, after, rfl, hn, hafter⟩ := h
  exact ⟨front ++ before, n, after, (List.append_assoc _ _ _).symm, hn, hafter⟩

theorem LastWord.append_right {ns : List Node} {path : List String} {x : Node}
    (h : LastWord ns path x) {back : List Node} (hback : ∀ m ∈ back, m.along path = none) :
    LastWord (ns ++ back) path x := by
  obtain ⟨before, n, after, rfl, hn, hafter⟩ := h
  refine ⟨before, n, after ++ back, ?_, hn, List.forall_mem_append.2 ⟨hafter, hback⟩⟩
  rw [List.append_assoc, List.cons_append]

theorem along_foldl {path : List String} {ns : List Node} (hns : ∀ n ∈ ns, n.Shaped path)
    {base x : Node} (h : (ns.foldl merge base).along path = some x) :
    LastWord ns path x ∨ (∀ n ∈ ns, n.along path = none) ∧ base.along path = some x := by
  induction ns generalizing base with
  | nil => exact .inr ⟨List.forall_mem_nil _, h⟩
  | cons n ns ih =>
    obtain ⟨hn, hns⟩ := List.forall_mem_cons.1 hns
    rcases ih hns h with hlast | ⟨hsilent, hx⟩
    · exact .inl (hlast.append_left [n])
    · cases hword : n.along path with
      | none => exact .inr ⟨List.forall_mem_cons.2 ⟨hword, hsilent⟩, along_merge_of_silent hword hx⟩
      | some y =>
        rw [along_merge_of_later hn (by simp [hword])] at hx
        exact .inl ⟨[], n, ns, rfl, hx, hsilent⟩

theorem shaped_foldl {path : List String} {ns : List Node} (hns : ∀ n ∈ ns, n.Shaped path)
    {base : Node} (hbase : base.Shaped path) : (ns.foldl merge base).Shaped path := by
  induction ns generalizing base with
  | nil => exact hbase
  | cons n ns ih =>
    obtain ⟨hn, hns⟩ := List.forall_mem_cons.1 hns
    exact ih hns (hbase.merge hn)

/-- What an earlier tree says is not lost where all trees have the shape. -/
theorem isSome_along_foldl {path : List String} {ns : List Node} (hns : ∀ n ∈ ns, n.Shaped path)
    {base : Node} (hbase : base.Shaped path) (h : (base.along path).isSome) :
    ((ns.foldl merge base).along path).isSome := by
  induction ns generalizing base with
  | nil => exact h
  | cons n ns ih =>
    obtain ⟨hn, hns⟩ := List.forall_mem_cons.1 hns
    refine ih hns (hbase.merge hn) ?_
    rw [along_merge_of_earlier hbase, Option.isSome_or, h, Bool.or_true]

/-- What any tree says is not lost where all later trees have something to say themselves. -/
theorem isSome_along_foldl_of_all {path : List String} {ns : List Node}
    (hns : ∀ n ∈ ns, n.Shaped path ∧ (n.along path).isSome) {base : Node}
    (h : (base.along path).isSome) : ((ns.foldl merge base).along path).isSome := by
  induction ns generalizing base with
  | nil => exact h
  | cons n ns ih =>
    obtain ⟨⟨hshaped, hsome⟩, hns⟩ := List.forall_mem_cons.1 hns
    refine ih hns ?_
    rw [along_merge_of_later hshaped hsome]
    exact hsome

/-- Among trees of the right shape there may be one of any shape: still the last word counts. -/
theorem lastWord_foldl {path : List String} {front back : List Node} {between : Option Node}
    (hfront : ∀ n ∈ front, n.Shaped path) (hback : ∀ n ∈ back, n.Shaped path) {base x : Node}
    (hbase : base.Shaped path) (hsilent : base.along path = none)
    (h : ((front ++ between.toList ++ back).foldl merge base).along path = some x) :
    LastWord (front ++ between.toList ++ back) path x := by
  have hword (h : (front.foldl merge base).along path = some x) : LastWord front path x := by
    rcases along_foldl hfront h with hword | ⟨-, hx⟩
    · exact hword
    · rw [hsilent] at hx
      cases hx
  rw [List.foldl_append] at h
  rcases along_foldl hback h with hlast | ⟨hquiet, hx⟩
  · exact hlast.append_left _
  refine LastWord.append_right ?_ hquiet
  cases between with
  | none => simpa using hword (by simpa using hx)
  | some n =>
    rw [Option.toList_some, List.foldl_append, List.foldl_cons, List.foldl_nil,
      along_merge_of_earlier (shaped_foldl hfront hbase)] at hx
    cases hn : n.along path with
    | none =>
      rw [hn, Option.none_or] at hx
      exact (hword hx).append_right (by simpa using hn)
    | some y =>
      rw [hn, Option.some_or] at hx
      exact ⟨front, n, [], rfl, hn.trans hx, List.forall_mem_nil _⟩

end Node

end ChatCommand.Settings
