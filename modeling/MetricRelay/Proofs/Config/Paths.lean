import Mathlib.Data.List.TakeWhile
import MetricRelay.Proofs.Config.Sources

/-!
# Keys and paths

The names of a key are its path as long as none of them is empty
(`Config.pathOfKey_eq_namesOfKey`).  A value that is nested along a path is the only thing that is
found there, with tables on the way (`Config.at?_nested_append`, `Config.at?_nested_eq_none`), and
it hides what other layers have at this path (`Config.at?_merge_nested`).
-/

namespace MetricRelay
namespace Config

/-! ### Names of keys -/

theorem namesOfKey_ne_nil (key : String) : namesOfKey key ≠ [] := by
  rw [namesOfKey, Ne, List.map_eq_nil_iff]
  exact List.splitOnP_ne_nil _ _

/-- A key is its names with points between them. -/
theorem intercalate_namesOfKey (key : String) : ".".intercalate (namesOfKey key) = key := by
  rw [← String.toList_inj, String.toList_intercalate, namesOfKey, List.map_map,
    ← List.splitOn_eq_splitOnP]
  simp [Function.comp_def]

theorem pathOfKey_eq_namesOfKey {key : String} (named : "" ∉ namesOfKey key) :
    pathOfKey key = namesOfKey key := by
  rw [pathOfKey, List.takeWhile_eq_self_iff]
  intro name mem
  rw [bne_iff_ne]
  rintro rfl
  exact named mem

/-! ### What is nested along a path -/

theorem isTable_nested (value : Config) {path : List String} (inside : path ≠ []) :
    (nested value path).isTable = true := by
  obtain ⟨name, path, rfl⟩ := List.exists_cons_of_ne_nil inside
  rfl

theorem at?_nested_append (value : Config) (start rest : List String) :
    (nested value (start ++ rest)).at? start = some (nested value rest) := by
  induction start with
  | nil => exact at?_nil _
  | cons name start ih =>
    simp [nested, Keyed.get?, Std.ReflCmp.compare_self, ih]

/-- Beside the path around a single value there is nothing. -/
theorem at?_nested_eq_none {value : Config} (single : value.isTable = false)
    {path other : List String} (beside : ¬other <+: path) :
    (nested value path).at? other = none := by
  induction path generalizing other with
  | nil =>
    cases other with
    | nil => exact absurd List.nil_prefix beside
    | cons name other => exact at?_cons_of_not_isTable single _ _
  | cons name path ih =>
    cases other with
    | nil => exact absurd List.nil_prefix beside
    | cons name' other =>
      rw [nested, at?_table_cons, Keyed.get?]
      split_ifs with same
      · obtain rfl := Std.LawfulEqCmp.eq_of_compare same
        exact ih fun within => beside (List.cons_prefix_cons.2 ⟨rfl, within⟩)
      · rfl

/-- A single value above all other layers is what is found at its path. -/
theorem at?_merge_nested {value : Config} (single : value.isTable = false)
    (no_list : ∀ items, value ≠ .list items) (layers : List Config) (path : List String) :
    (merge (layers ++ [value.nested path])).at? path = some value := by
  have found := at?_nested value path
  rw [at?_merge_append_singleton (isOrdered_nested (isOrdered_of_not_isTable single) path),
    touches_of_at? found, found, if_pos rfl, Option.map_some, laidOver_append single,
    behind_of_ne_list no_list]

end Config
end MetricRelay
