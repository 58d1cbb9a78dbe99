import MetricRelay.Config.Environment
import MetricRelay.Config.Json
import MetricRelay.Config.Yaml
import MetricRelay.Proofs.Config.Overlay
import MetricRelay.Proofs.Traversal

/-!
# Every source gives ordered tables

Files and environments are read as tables, whatever they hold
(`Config.isTable_of_ofYamlFile?`, `Config.isTable_of_ofJsonFile?`, `Environment.isTable_of_layer`),
and all tables in them are ordered.  A reader makes a table of entries with any names in any
order, and putting them together sorts them; so what has to be carried through a reader is only
that the values of the entries are ordered.
-/

namespace MetricRelay
namespace Config

/-! ### Tables that are put together -/

/-- The configuration is an ordered table. -/
structure IsLayer (c : Config) : Prop where
  table : c.isTable = true
  ordered : c.IsOrdered

theorem isOrdered_ofList {entries : List (String × Config)} (h : ∀ e ∈ entries, e.2.IsOrdered) :
    (table (Keyed.ofList entries)).IsOrdered :=
  isOrdered_table (Keyed.ascending_ofList entries) fun e he => h e (Keyed.mem_of_mem_ofList he)

theorem isOrdered_ofEntries {entries : List (String × Config)}
    (h : ∀ e ∈ entries, e.2.IsOrdered) : (ofEntries entries).IsOrdered := by
  unfold ofEntries
  split
  · rename_i content found
    obtain ⟨before, after, reversed, -⟩ := List.lookup_eq_some_iff.1 found
    have mem : (contentName, content) ∈ entries := by
      rw [← List.mem_reverse, reversed]
      simp
    exact h _ mem
  · exact isOrdered_ofList h

theorem isOrdered_nested {c : Config} (h : c.IsOrdered) (path : List String) :
    (c.nested path).IsOrdered := by
  induction path with
  | nil => exact h
  | cons name path ih =>
    refine isOrdered_table (List.pairwise_singleton _ _) fun e he => ?_
    obtain rfl := List.mem_singleton.1 he
    exact ih

/-! ### JSON -/

theorem isTable_of_ofNumeral? {n : Numeral} {c : Config} (h : ofNumeral? n = some c) :
    c.isTable = false := by
  unfold ofNumeral? at h
  split_ifs at h <;> cases h <;> rfl

mutual

theorem isOrdered_of_ofJson? {inFile : Bool} {depth : Nat} {c : Config} :
    (j : Json) → ofJson? inFile depth j = some c → c.IsOrdered
  | .null, h => by
    cases h
    exact isOrdered_of_not_isTable rfl
  | .bool _, h => by
    cases h
    exact isOrdered_of_not_isTable rfl
  | .number n, h => isOrdered_of_not_isTable (isTable_of_ofNumeral? (n := n) h)
  | .string t, h => by
    obtain ⟨s, -, rfl⟩ := Option.map_eq_some_iff.1 h
    exact isOrdered_of_not_isTable rfl
  | .array items, h => by
    cases depth with
    | zero => cases h
    | succ depth =>
      obtain ⟨cs, -, rfl⟩ := Option.map_eq_some_iff.1 h
      exact isOrdered_of_not_isTable rfl
  | .object members, h => by
    cases depth with
    | zero => cases h
    | succ depth =>
      obtain ⟨entries, read, made⟩ := Option.bind_eq_some_iff.1 h
      have ordered := isOrdered_of_ofMembers? members read
      cases inFile with
      | true =>
        cases made
        exact isOrdered_ofEntries ordered
      | false =>
        cases made
        exact isOrdered_ofList ordered

theorem isOrdered_of_ofMembers? {inFile : Bool} {depth : Nat}
    {entries : List (String × Config)} :
    (members : List (Json.Text × Json)) → ofMembers? inFile depth members = some entries →
      ∀ e ∈ entries, e.2.IsOrdered
  | [], h => by
    cases h
    exact nofun
  | (name, value) :: members, h => by
    rw [ofMembers?] at h
    obtain ⟨name, -, h⟩ := Option.bind_eq_some_iff.1 h
    split_ifs at h
    · exact isOrdered_of_ofMembers? members h
    · obtain ⟨c, read, h⟩ := Option.bind_eq_some_iff.1 h
      obtain ⟨rest, read', h⟩ := Option.bind_eq_some_iff.1 h
      cases h
      exact List.forall_mem_cons.2
        ⟨isOrdered_of_ofJson? value read, isOrdered_of_ofMembers? members read'⟩

end

theorem isLayer_of_ofJsonFile? {bs : Bytes} {c : Config} (h : ofJsonFile? bs = some c) :
    c.IsLayer := by
  obtain ⟨j, -, h⟩ := Option.bind_eq_some_iff.1 h
  cases j with
  | object members =>
    obtain ⟨entries, read, h⟩ := Option.bind_eq_some_iff.1 h
    cases h
    refine ⟨rfl, isOrdered_ofList fun e he => ?_⟩
    obtain ⟨⟨name, value⟩, -, read⟩ := exists_of_mem_mapM_some read he
    simp only [Option.bind_eq_bind, Option.bind_eq_some_iff, Option.pure_def,
      Option.some.injEq] at read
    obtain ⟨name, -, c, read, rfl⟩ := read
    exact isOrdered_of_ofJson? value read
  | _ => cases h

/-! ### YAML -/

theorem isTable_of_integer? {cs : List Char} {c : Config} (h : YamlScalar.integer? cs = some c) :
    c.isTable = false := by
  have unsigned {cs : List Char}
      (h : (do
        let n ← YamlScalar.natural? cs
        if n < pow2 128 then some (.unsigned n) else none) = some c) : c.isTable = false := by
    obtain ⟨n, -, h⟩ := Option.bind_eq_some_iff.1 h
    split_ifs at h
    cases h
    rfl
  unfold YamlScalar.integer? at h
  split_ifs at h
  dsimp only at h
  split at h
  · exact unsigned h
  · obtain ⟨n, -, h⟩ := Option.bind_eq_some_iff.1 h
    split_ifs at h
    cases h
    rfl
  · exact unsigned h

theorem isTable_plain (s : String) : (YamlScalar.plain s).isTable = false := by
  unfold YamlScalar.plain
  dsimp only
  split_ifs
  · rfl
  · split
    · rfl
    · split
      · rename_i read
        exact isTable_of_integer? read
      · split <;> rfl
  · split
    · rfl
    · split
      · rename_i read
        exact isTable_of_integer? read
      · split <;> rfl

theorem isTable_of_value? {tag : Option Bytes} {style : Yaml.Style} {s : String} {c : Config}
    (h : YamlScalar.value? tag style s = some c) : c.isTable = false := by
  have untagged : (YamlScalar.untagged style s).isTable = false := by
    unfold YamlScalar.untagged
    split
    · exact isTable_plain s
    · rfl
  unfold YamlScalar.value? at h
  split at h
  · cases h
    exact untagged
  · split_ifs at h
    · cases h
      exact untagged
    · obtain ⟨b, -, rfl⟩ := Option.map_eq_some_iff.1 h
      rfl
    · exact isTable_of_integer? h
    · obtain ⟨x, -, rfl⟩ := Option.map_eq_some_iff.1 h
      rfl
    · cases h
      rfl
    · cases h
      rfl

theorem isOrdered_tagged {c : Config} (h : c.IsOrdered) (tag : Option Bytes) :
    (tagged tag c).IsOrdered := by
  unfold tagged
  split
  · exact isOrdered_nested h _
  · exact h

/-- The only table that a scalar may be is the one its tag puts it into. -/
theorem isOrdered_of_scalar {tag : Option Bytes} {style : Yaml.Style} {s : String} {c : Config}
    {n k : Nat}
    (h : (do return tagged tag (← YamlScalar.value? tag style s) : Following Config) n =
      some (c, k)) : c.IsOrdered := by
  obtain ⟨c', i, read, h⟩ := exists_of_bind_run h
  cases h
  exact isOrdered_tagged (isOrdered_of_not_isTable (isTable_of_value? (eq_of_lift_run read))) tag

/-- Scalars and lists are ordered as they are, and the values of the entries of a table are nested
less deeply. -/
theorem isOrdered_of_ofNode? {slots : List (Nat × Yaml.Node)} {depth : Nat} {node : Yaml.Node}
    {c : Config} {n k : Nat} (h : ofNode? slots depth node n = some (c, k)) : c.IsOrdered := by
  induction depth generalizing node c n k with
  | zero =>
    unfold ofNode? at h
    obtain ⟨followed, i, -, h⟩ := exists_of_bind_run h
    cases followed with
    | scalar p style s => exact isOrdered_of_scalar h
    | sequence => cases h
    | mapping => cases h
    | reference => cases h
  | succ depth ih =>
    unfold ofNode? at h
    obtain ⟨followed, i, -, h⟩ := exists_of_bind_run h
    cases followed with
    | scalar p style s => exact isOrdered_of_scalar h
    | sequence p items =>
      obtain ⟨items, i', -, h⟩ := exists_of_bind_run h
      cases h
      exact isOrdered_tagged (isOrdered_of_not_isTable rfl) _
    | mapping p entries =>
      obtain ⟨entries, i', read, h⟩ := exists_of_bind_run h
      cases h
      refine isOrdered_tagged (isOrdered_ofEntries fun e he => ?_) _
      obtain ⟨⟨key, value⟩, -, i, j, read⟩ :=
        (Yield.ofState Nat).exists_of_mem_filterMapM ⟨_, _, read⟩ he
      obtain ⟨name, i', -, read⟩ := exists_of_bind_run read
      split at read
      · -- a number has no value of its own
        obtain ⟨node, i'', -, read⟩ := exists_of_bind_run read
        cases node with
        | scalar p style s =>
          dsimp only at read
          split at read <;> cases read
        | _ => cases read
      · obtain ⟨c, i'', read, made⟩ := exists_of_bind_run read
        cases made
        exact ih read
    | reference => cases h

theorem isLayer_of_ofDocument? {node : Option Yaml.Node} {c : Config}
    (h : ofDocument? node = some c) : c.IsLayer := by
  have empty : (table []).IsLayer := ⟨rfl, isOrdered_table List.Pairwise.nil nofun⟩
  unfold ofDocument? at h
  split at h
  · cases h
    exact empty
  · cases h
    exact empty
  · obtain ⟨⟨entries, k⟩, read, h⟩ := Option.bind_eq_some_iff.1 h
    cases h
    refine ⟨rfl, isOrdered_ofList fun e he => ?_⟩
    obtain ⟨⟨key, value⟩, -, i, j, read⟩ :=
      (Yield.ofState Nat).exists_of_mem_mapM ⟨_, _, read⟩ he
    obtain ⟨name, i', -, read⟩ := exists_of_bind_run read
    obtain ⟨c, i'', read, made⟩ := exists_of_bind_run read
    cases made
    exact isOrdered_of_ofNode? read
  · cases h

theorem isLayer_of_ofYamlFile? {bs : Bytes} {c : Config} (h : ofYamlFile? bs = some c) :
    c.IsLayer := by
  obtain ⟨text, -, h⟩ := Option.bind_eq_some_iff.1 h
  obtain ⟨node, -, h⟩ := Option.bind_eq_some_iff.1 h
  exact isLayer_of_ofDocument? h

end Config

/-! ### Environments -/

namespace Environment

open Config

theorem isTable_bareValue (cs : List Char) : (bareValue cs).isTable = false := by
  unfold bareValue
  dsimp only
  split
  · rfl
  · split
    · rfl
    · split_ifs <;> rfl

/-- Values and entries take turns in using up fuel. -/
theorem isOrdered_of_valueFrom {fuel : Nat} :
    (∀ {cs rest : List Char} {c : Config}, valueFrom fuel cs = .ok (c, rest) → c.IsOrdered) ∧
      ∀ {cs rest : List Char} {entries : List (String × Config)},
        entriesFrom fuel cs = .ok (entries, rest) → ∀ e ∈ entries, e.2.IsOrdered := by
  induction fuel with
  | zero => exact ⟨nofun, nofun⟩
  | succ fuel ih =>
    obtain ⟨value_ordered, entries_ordered⟩ := ih
    constructor
    · intro cs rest c h
      rw [valueFrom] at h
      obtain ⟨⟨c', rest'⟩, read, made⟩ := exists_of_map_eq_ok h
      cases made
      split at read
      · cases read
        exact isOrdered_of_not_isTable rfl
      · cases read
        exact isOrdered_of_not_isTable rfl
      · cases read
        exact isOrdered_table List.Pairwise.nil nofun
      · obtain ⟨⟨entries, cs⟩, read, made⟩ := exists_of_bind_eq_ok read
        cases made
        exact isOrdered_ofList (entries_ordered read)
      · cases read
        exact isOrdered_of_not_isTable rfl
      · obtain ⟨⟨items, cs⟩, -, made⟩ := exists_of_bind_eq_ok read
        cases made
        exact isOrdered_of_not_isTable rfl
      · obtain ⟨⟨t, cs⟩, -, made⟩ := exists_of_bind_eq_ok read
        cases made
        exact isOrdered_of_not_isTable rfl
      · cases read
        exact isOrdered_of_not_isTable rfl
      · cases read
      · cases read
        exact isOrdered_of_not_isTable (isTable_bareValue _)
    · intro cs rest entries h
      rw [entriesFrom] at h
      obtain ⟨⟨key, cs'⟩, -, h⟩ := exists_of_bind_eq_ok h
      obtain ⟨⟨c, rest'⟩, read, h⟩ := exists_of_bind_eq_ok h
      have first : c.IsOrdered := value_ordered read
      dsimp only at h
      split at h
      · cases h
        exact List.forall_mem_singleton.2 first
      · cases h
        exact List.forall_mem_singleton.2 first
      · obtain ⟨⟨more, rest''⟩, read, h⟩ := exists_of_bind_eq_ok h
        cases h
        exact List.forall_mem_cons.2 ⟨first, entries_ordered read⟩
      · cases h

theorem isOrdered_of_value? {text : String} {c : Config} (h : value? text = some c) :
    c.IsOrdered := by
  unfold value? at h
  split at h
  · rename_i read
    cases h
    exact isOrdered_of_valueFrom.1 read
  · cases h
  · cases h
    exact isOrdered_of_not_isTable rfl

theorem names_ne_nil (cs : List Char) : names cs ≠ [] := by
  unfold names
  split
  · exact List.cons_ne_nil _ _
  · exact List.cons_ne_nil _ _
  · split_ifs
    · exact List.cons_ne_nil _ _
    · split <;> exact List.cons_ne_nil _ _

/-- A variable sets something inside the configuration, and never all of it. -/
theorem ne_nil_of_path? {stem name : String} {path : List String}
    (h : path? stem name = some path) : path ≠ [] := by
  obtain ⟨cs, -, h⟩ := Option.bind_eq_some_iff.1 h
  dsimp only at h
  split_ifs at h
  cases h
  simpa using names_ne_nil _

/-- Each variable lays a table over what is there. -/
theorem isLayer_of_layer {stem : String} {environment : List (String × String)} {c : Config}
    (h : layer stem environment = .ok c) : c.IsLayer := by
  refine of_foldlM ⟨rfl, isOrdered_table List.Pairwise.nil nofun⟩ (fun c e c' hc h => ?_) h
  obtain ⟨name, value⟩ := e
  dsimp only at h
  split at h
  · cases h
    exact hc
  · rename_i path set
    split at h
    · cases h
    · rename_i value read
      cases h
      obtain ⟨entries, rfl⟩ := eq_table_of_isTable hc.table
      obtain ⟨first, path, rfl⟩ := List.exists_cons_of_ne_nil (ne_nil_of_path? set)
      exact ⟨rfl, hc.ordered.overlay (isOrdered_nested (isOrdered_of_value? read) _) _⟩

end Environment
end MetricRelay
