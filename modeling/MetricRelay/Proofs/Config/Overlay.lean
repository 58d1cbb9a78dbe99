import Mathlib.Data.List.Infix
import MetricRelay.Config.Value
import MetricRelay.Proofs.Keyed

/-!
# Configurations laid over each other

What a configuration with another one laid over it has at a path is determined by what both have
there (`Config.at?_overlay`): if the later one touches the path (`Config.touches`), it decides,
and what the earlier one has there matters only to tables and lists.  From this one law follows
what is found in any number of layers.

Laying over goes through the entries of the later table one after the other, and so no name may
stand there twice.  The tables of a configuration are ordered (`Config.IsOrdered`), which laying
over preserves.
-/

namespace MetricRelay
namespace Config

def isTable : Config → Bool
  | .table _ => true
  | _ => false

theorem eq_table_of_isTable {c : Config} (h : c.isTable = true) :
    ∃ entries, c = .table entries := by
  cases c with
  | table entries => exact ⟨entries, rfl⟩
  | _ => cases h

/-! ### Paths -/

@[simp] theorem at?_nil (c : Config) : c.at? [] = some c := by
  cases c <;> rfl

@[simp] theorem at?_table_cons (entries : List (String × Config)) (name : String)
    (path : List String) :
    (table entries).at? (name :: path) = (Keyed.get? name entries).bind (·.at? path) := by
  rw [at?]
  cases Keyed.get? name entries <;> rfl

theorem at?_cons_of_not_isTable {c : Config} (h : c.isTable = false) (name : String)
    (path : List String) : c.at? (name :: path) = none := by
  cases c with
  | table => cases h
  | _ => rfl

/-- The configuration has a value at the path, or a value that is no table at a path that leads
there. -/
def touches (c : Config) (path : List String) : Bool :=
  (c.at? path).isSome || path.inits.dropLast.any fun start => (c.at? start).any (!·.isTable)

theorem touches_of_at? {c v : Config} {path : List String} (h : c.at? path = some v) :
    c.touches path = true := by
  simp [touches, h]

theorem at?_eq_none_of_untouched {c : Config} {path : List String} (h : c.touches path = false) :
    c.at? path = none := by
  rw [← Option.not_isSome_iff_eq_none]
  intro found
  rw [touches, found] at h
  cases h

@[simp] theorem touches_nil (c : Config) : c.touches [] = true := touches_of_at? c.at?_nil

theorem dropLast_inits_cons (name : String) (path : List String) :
    (name :: path).inits.dropLast = [] :: path.inits.dropLast.map (name :: ·) := by
  have nonempty : path.inits.map (name :: ·) ≠ [] := by cases path <;> simp
  rw [List.inits_cons, List.dropLast_cons_of_ne_nil nonempty, List.map_dropLast]

theorem touches_table_cons (entries : List (String × Config)) (name : String)
    (path : List String) :
    (table entries).touches (name :: path) =
      (Keyed.get? name entries).any (·.touches path) := by
  rw [touches, dropLast_inits_cons, List.any_cons, List.any_map]
  cases hn : Keyed.get? name entries with
  | none => simp [hn, isTable, Function.comp_def]
  | some c => simp [hn, isTable, touches, Function.comp_def]

theorem touches_cons_of_not_isTable {c : Config} (h : c.isTable = false) (name : String)
    (path : List String) : c.touches (name :: path) = true := by
  rw [touches, dropLast_inits_cons, List.any_cons, at?_nil]
  simp [h]

/-! ### Ordered tables -/

/-- The names of all tables that paths lead to ascend. -/
def IsOrdered (c : Config) : Prop :=
  ∀ path entries, c.at? path = some (.table entries) → Keyed.Ascending entries

theorem isOrdered_of_not_isTable {c : Config} (h : c.isTable = false) : c.IsOrdered := by
  intro path entries found
  cases path with
  | nil =>
    rw [at?_nil] at found
    cases found
    cases h
  | cons name path =>
    rw [at?_cons_of_not_isTable h] at found
    cases found

theorem IsOrdered.ascending {entries : List (String × Config)} (h : (table entries).IsOrdered) :
    Keyed.Ascending entries :=
  h [] entries (at?_nil _)

theorem IsOrdered.entry {entries : List (String × Config)} (h : (table entries).IsOrdered)
    {name : String} {c : Config} (found : Keyed.get? name entries = some c) : c.IsOrdered := by
  intro path inner hc
  refine h (name :: path) inner ?_
  rw [at?_table_cons, found]
  exact hc

theorem isOrdered_table {entries : List (String × Config)} (ascending : Keyed.Ascending entries)
    (h : ∀ e ∈ entries, e.2.IsOrdered) : (table entries).IsOrdered := by
  intro path inner found
  cases path with
  | nil =>
    rw [at?_nil] at found
    cases found
    exact ascending
  | cons name path =>
    rw [at?_table_cons] at found
    obtain ⟨c, hc, found⟩ := Option.bind_eq_some_iff.1 found
    exact h (name, c) (ascending.get?_eq_some_iff.1 hc) path inner found

/-! ### Laying over -/

/-- A value where there may be an earlier one. -/
def laidOver (rule : ListRule) : Option Config → Config → Config
  | none, c => c
  | some old, c => overlay rule old c

@[simp] theorem map_laidOver_none (rule : ListRule) (c : Option Config) :
    c.map (laidOver rule none) = c := by
  cases c <;> rfl

theorem overlay_of_not_isTable {a b : Config} (rule : ListRule) (h : b.isTable = false) :
    (overlay rule a b).isTable = false := by
  cases b with
  | table => cases h
  | list later =>
    cases a with
    | list earlier => cases rule <;> rfl
    | _ => rfl
  | _ => cases a <;> rfl

theorem overlay_table_of_not_isTable {a : Config} (rule : ListRule) (h : a.isTable = false)
    (later : List (String × Config)) : overlay rule a (.table later) = .table later := by
  cases a with
  | table => cases h
  | _ => rfl

theorem get?_overlayEntries {rule : ListRule} {earlier later : List (String × Config)}
    (distinct : (later.map Prod.fst).Nodup) (name : String) :
    Keyed.get? name (overlayEntries rule earlier later) =
      match Keyed.get? name later with
      | none => Keyed.get? name earlier
      | some c => some (laidOver rule (Keyed.get? name earlier) c) := by
  induction later generalizing earlier with
  | nil => simp [overlayEntries, Keyed.get?]
  | cons e later ih =>
    obtain ⟨name', c⟩ := e
    obtain ⟨fresh, distinct⟩ := List.nodup_cons.1 distinct
    have laid : overlayEntries rule earlier ((name', c) :: later) =
        overlayEntries rule
          (Keyed.put name' (laidOver rule (Keyed.get? name' earlier) c) earlier) later := by
      rw [overlayEntries]
      cases Keyed.get? name' earlier <;> rfl
    rw [laid, ih distinct, Keyed.get?_put, Keyed.get?]
    by_cases same : name = name'
    · subst same
      -- the name does not stand further behind
      have absent : Keyed.get? name later = none := by
        by_contra found
        obtain ⟨c', hc'⟩ := Option.ne_none_iff_exists'.1 found
        exact fresh (List.mem_map.2 ⟨(name, c'), Keyed.mem_of_get? hc', rfl⟩)
      simp [absent, Std.ReflCmp.compare_self]
    · have other : compare name name' ≠ .eq := fun h => same (Std.LawfulEqCmp.eq_of_compare h)
      simp [same, other]

theorem ascending_overlayEntries {rule : ListRule} {earlier later : List (String × Config)}
    (h : Keyed.Ascending earlier) : Keyed.Ascending (overlayEntries rule earlier later) := by
  induction later generalizing earlier with
  | nil => simpa [overlayEntries] using h
  | cons e later ih =>
    rw [overlayEntries]
    exact ih (h.put _ _)

/-- **The later configuration decides about what it touches**, and leaves the rest as it is. -/
theorem at?_overlay {b : Config} (ordered : b.IsOrdered) (rule : ListRule) (a : Config)
    (path : List String) :
    (overlay rule a b).at? path =
      if b.touches path then (b.at? path).map (laidOver rule (a.at? path)) else a.at? path := by
  -- where there is nothing earlier, the later one stays as it is
  have alone (c : Config) (path : List String) :
      c.at? path = if c.touches path then (c.at? path).map (laidOver rule none) else none := by
    split_ifs with touched
    · rw [map_laidOver_none]
    · exact at?_eq_none_of_untouched (by simpa using touched)
  induction path generalizing a b with
  | nil => simp [laidOver]
  | cons name path ih =>
    cases hb : b.isTable with
    | false =>
      rw [at?_cons_of_not_isTable (overlay_of_not_isTable rule hb),
        touches_cons_of_not_isTable hb, at?_cons_of_not_isTable hb]
      rfl
    | true =>
      obtain ⟨later, rfl⟩ := eq_table_of_isTable hb
      cases ha : a.isTable with
      | false =>
        rw [overlay_table_of_not_isTable rule ha, at?_cons_of_not_isTable ha]
        exact alone _ _
      | true =>
        obtain ⟨earlier, rfl⟩ := eq_table_of_isTable ha
        rw [overlay, at?_table_cons, at?_table_cons, at?_table_cons, touches_table_cons,
          get?_overlayEntries ordered.ascending.nodup_keys]
        cases hl : Keyed.get? name later with
        | none => rfl
        | some c =>
          cases he : Keyed.get? name earlier with
          | none => exact alone c path
          | some old => exact ih (ordered.entry hl) old

theorem IsOrdered.overlay {a b : Config} (ha : a.IsOrdered) (hb : b.IsOrdered) (rule : ListRule) :
    (overlay rule a b).IsOrdered := by
  intro path entries found
  rw [at?_overlay hb] at found
  split_ifs at found
  · obtain ⟨c, hc, laid⟩ := Option.map_eq_some_iff.1 found
    cases ho : a.at? path with
    | none =>
      rw [ho] at laid
      exact hb path entries (hc.trans (congrArg some laid))
    | some old =>
      rw [ho, laidOver] at laid
      cases hct : c.isTable with
      | false =>
        have := overlay_of_not_isTable (a := old) rule hct
        rw [laid] at this
        cases this
      | true =>
        obtain ⟨later, rfl⟩ := eq_table_of_isTable hct
        cases hot : old.isTable with
        | false =>
          rw [overlay_table_of_not_isTable rule hot] at laid
          exact hb path entries (hc.trans (congrArg some laid))
        | true =>
          obtain ⟨earlier, rfl⟩ := eq_table_of_isTable hot
          rw [Config.overlay] at laid
          cases laid
          exact ascending_overlayEntries (ha path earlier ho)
  · exact ha path entries found

/-! ### Many layers -/

/-- All layers laid over each other, the lowest one first. -/
def merge (layers : List Config) : Config := layers.foldl (overlay .append) (.table [])

theorem merge_append_singleton (layers : List Config) (c : Config) :
    merge (layers ++ [c]) = overlay .append (merge layers) c := by
  simp [merge]

/-- The items of a list; nothing else has items. -/
def itemsOf : Option Config → List Config
  | some (.list items) => items
  | _ => []

/-- A list with earlier items in front of it; any other value stays as it is. -/
def behind (earlier : List Config) : Config → Config
  | .list items => .list (earlier ++ items)
  | c => c

theorem behind_of_ne_list {c : Config} (h : ∀ items, c ≠ .list items) (earlier : List Config) :
    c.behind earlier = c := by
  cases c with
  | list items => exact absurd rfl (h items)
  | _ => rfl

/-- The lists that the layers have at a path, the latest layer first, one behind the other.  A
layer that touches the path and has no list there hides those before it. -/
def listsAt (path : List String) : List Config → List Config
  | [] => []
  | c :: earlier =>
    if c.touches path then
      match c.at? path with
      | some (.list items) => listsAt path earlier ++ items
      | _ => []
    else listsAt path earlier

section Layers

variable {layers : List Config} {path : List String}

theorem at?_merge_append_singleton {c : Config} (ordered : c.IsOrdered) :
    (merge (layers ++ [c])).at? path =
      if c.touches path then (c.at? path).map (laidOver .append ((merge layers).at? path))
      else (merge layers).at? path := by
  rw [merge_append_singleton, at?_overlay ordered]

/-- Layers that do not touch a path leave it as it is. -/
theorem at?_merge_append {after : List Config} (ordered : ∀ c ∈ after, c.IsOrdered)
    (untouched : ∀ c ∈ after, c.touches path = false) :
    (merge (layers ++ after)).at? path = (merge layers).at? path := by
  induction after using List.reverseRecOn with
  | nil => rw [List.append_nil]
  | append_singleton after c ih =>
    rw [List.forall_mem_append, List.forall_mem_singleton] at ordered untouched
    rw [← List.append_assoc, at?_merge_append_singleton ordered.2, untouched.2]
    exact ih ordered.1 untouched.1

theorem laidOver_append {c : Config} (scalar : c.isTable = false) (old : Option Config) :
    laidOver .append old c = c.behind (itemsOf old) := by
  cases old with
  | none => cases c <;> rfl
  | some old =>
    cases c with
    | table => cases scalar
    | list => cases old <;> rfl
    | _ => cases old <;> rfl

theorem itemsOf_laidOver (old : Option Config) (c : Config) :
    itemsOf (some (laidOver .append old c)) =
      match c with
      | .list items => itemsOf old ++ items
      | _ => [] := by
  cases old with
  | none => cases c <;> rfl
  | some old => cases c <;> cases old <;> rfl

theorem itemsOf_at?_merge (ordered : ∀ c ∈ layers, c.IsOrdered) :
    itemsOf ((merge layers).at? path) = listsAt path layers.reverse := by
  induction layers using List.reverseRecOn with
  | nil => cases path <;> rfl
  | append_singleton layers c ih =>
    rw [List.forall_mem_append, List.forall_mem_singleton] at ordered
    rw [at?_merge_append_singleton ordered.2, List.reverse_append, List.reverse_singleton,
      List.singleton_append, listsAt, ← ih ordered.1]
    split
    · cases hc : c.at? path with
      | none => rfl
      | some v =>
        rw [Option.map_some, itemsOf_laidOver]
        cases v <;> rfl
    · rfl

/-- **The latest layer that touches a path decides.**  If its value there is no table, it is what
is found, though a list has the lists of earlier layers in front of it. -/
theorem at?_merge_of_latest {before after : List Config} {c v : Config}
    (ordered : ∀ c' ∈ before ++ c :: after, c'.IsOrdered)
    (untouched : ∀ c' ∈ after, c'.touches path = false) (found : c.at? path = some v)
    (scalar : v.isTable = false) :
    (merge (before ++ c :: after)).at? path =
      some (v.behind (listsAt path before.reverse)) := by
  rw [List.forall_mem_append, List.forall_mem_cons] at ordered
  obtain ⟨before_ordered, c_ordered, after_ordered⟩ := ordered
  rw [List.append_cons, at?_merge_append after_ordered untouched,
    at?_merge_append_singleton c_ordered, touches_of_at? found, found, if_pos rfl,
    Option.map_some, laidOver_append scalar, itemsOf_at?_merge before_ordered]

/-- What no layer has is not there. -/
theorem at?_merge_eq_none (ordered : ∀ c ∈ layers, c.IsOrdered) (inside : path ≠ [])
    (absent : ∀ c ∈ layers, c.at? path = none) : (merge layers).at? path = none := by
  induction layers using List.reverseRecOn with
  | nil =>
    obtain ⟨name, path, rfl⟩ := List.exists_cons_of_ne_nil inside
    rfl
  | append_singleton layers c ih =>
    rw [List.forall_mem_append, List.forall_mem_singleton] at ordered absent
    rw [at?_merge_append_singleton ordered.2, absent.2, ih ordered.1 absent.1]
    split <;> rfl

end Layers

end Config
end MetricRelay
