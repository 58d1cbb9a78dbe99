import MetricRelay.Config.Layers
import MetricRelay.Proofs.Config.Sources

/-!
# Later layers override earlier ones

A `Layers.Call` adds a source to a configuration.  Whenever defaults are added, they end up below
all other layers, and these stay in the order in which they were added (`Layers.values_of_load`).
What is found under a key is then what the latest layer has there that touches its path
(`Layers.latest_layer_decides`).

Lists are the exception: the list of the latest layer comes with the lists of earlier layers in
front of it, so that it does not override them (`Layers.list_is_not_overridden`).
-/

namespace MetricRelay
namespace Layers

/-! ### Calls -/

/-- A call that adds a source.  A file that cannot be read has no content.  Defaults may be any
value, in which tables are ordered as they are everywhere. -/
inductive Call where
  | yaml (path : String) (content : Option Bytes)
  /-- Does nothing if the file cannot be read. -/
  | readableYaml (content : Option Bytes)
  | json (path : String) (content : Option Bytes)
  | environment (word : String) (settings : List (String × String))
  | defaults (d : {c : Config // c.IsOrdered})

namespace Call

def isDefaults : Call → Bool
  | .defaults _ => true
  | _ => false

/-- The layer that a call adds. -/
def layer? : Call → Option Config
  | .yaml _ content => content >>= Config.ofYamlFile?
  | .readableYaml content => content >>= Config.ofYamlFile?
  | .json _ content => content >>= Config.ofJsonFile?
  | .environment word settings =>
    (Environment.layer (Environment.stem word) (Environment.ofSettings settings)).toOption
  | .defaults d => some d.val

end Call

def call (l : Layers) : Call → Except ConfigError Layers
  | .yaml path content => l.addFile path (content >>= Config.ofYamlFile?)
  | .readableYaml content => .ok (l.addReadable (content >>= Config.ofYamlFile?))
  | .json path content => l.addFile path (content >>= Config.ofJsonFile?)
  | .environment word settings => l.addEnvironment word settings
  | .defaults d => .ok (l.addDefaults d.val)

/-- The layers that a sequence of calls makes. -/
def load (calls : List Call) : Except ConfigError Layers := calls.foldlM call {}

/-- The layers that calls add, the lowest one first: defaults are below everything, the latest
ones lowest, and the others are in the order in which they were added. -/
def inOrder (calls : List Call) : List Config :=
  (calls.filter (·.isDefaults)).reverse.filterMap (·.layer?) ++
    (calls.filter (!·.isDefaults)).filterMap (·.layer?)

variable {l l' : Layers} {calls : List Call}

theorem values_of_addFile {path : String} {c : Option Config} (h : l.addFile path c = .ok l') :
    l'.values = l.values ++ c.toList := by
  cases c with
  | none => cases h
  | some c =>
    cases h
    rfl

theorem values_addReadable (l : Layers) (c : Option Config) :
    (l.addReadable c).values = l.values ++ c.toList := by
  cases c with
  | none => exact (List.append_nil _).symm
  | some c => rfl

theorem values_of_addEnvironment {word : String} {settings : List (String × String)}
    (h : l.addEnvironment word settings = .ok l') :
    l'.values = l.values ++
      (Environment.layer (Environment.stem word)
        (Environment.ofSettings settings)).toOption.toList := by
  unfold addEnvironment at h
  split at h
  · cases h
  · split_ifs at h
    dsimp only at h
    split at h
    · cases h
    · rename_i read
      cases h
      rw [read]
      rfl

/-- A call adds its layer below all others or above them. -/
theorem values_of_call {c : Call} (h : l.call c = .ok l') :
    l'.values = if c.isDefaults then c.layer?.toList ++ l.values
      else l.values ++ c.layer?.toList := by
  cases c with
  | yaml path content => exact values_of_addFile h
  | readableYaml content =>
    cases h
    exact values_addReadable _ _
  | json path content => exact values_of_addFile h
  | environment word settings => exact values_of_addEnvironment h
  | defaults d =>
    cases h
    rfl

theorem values_of_foldlM (h : calls.foldlM call l = .ok l') :
    l'.values = (calls.filter (·.isDefaults)).reverse.filterMap (·.layer?) ++ l.values ++
      (calls.filter (!·.isDefaults)).filterMap (·.layer?) := by
  induction calls generalizing l with
  | nil =>
    cases h
    simp
  | cons c calls ih =>
    rw [List.foldlM_cons] at h
    obtain ⟨l₁, first, h⟩ := exists_of_bind_eq_ok h
    rw [ih h, values_of_call first]
    cases hd : c.isDefaults <;> cases hc : c.layer? <;> simp [hd, hc]

/-- **The layers are in the order that is documented.** -/
theorem values_of_load (loaded : load calls = .ok l) : l.values = inOrder calls := by
  rw [values_of_foldlM loaded, inOrder, List.append_nil]

theorem isLayer_of_layer? {c : Call} {layer : Config} (added : c.layer? = some layer) :
    (∃ d, c = .defaults d ∧ layer = d.val) ∨ layer.IsLayer := by
  cases c with
  | yaml path content =>
    obtain ⟨bs, -, read⟩ := Option.bind_eq_some_iff.1 added
    exact .inr (Config.isLayer_of_ofYamlFile? read)
  | readableYaml content =>
    obtain ⟨bs, -, read⟩ := Option.bind_eq_some_iff.1 added
    exact .inr (Config.isLayer_of_ofYamlFile? read)
  | json path content =>
    obtain ⟨bs, -, read⟩ := Option.bind_eq_some_iff.1 added
    exact .inr (Config.isLayer_of_ofJsonFile? read)
  | environment word settings =>
    cases read : Environment.layer (Environment.stem word) (Environment.ofSettings settings) with
    | error name =>
      rw [Call.layer?, read] at added
      cases added
    | ok c =>
      rw [Call.layer?, read] at added
      cases added
      exact .inr (Environment.isLayer_of_layer read)
  | defaults d =>
    cases added
    exact .inl ⟨d, rfl, rfl⟩

/-- Every layer but defaults is an ordered table, whatever its source. -/
theorem cases_of_mem_inOrder {layer : Config} (h : layer ∈ inOrder calls) :
    (∃ d, .defaults d ∈ calls ∧ layer = d.val) ∨ layer.IsLayer := by
  have traced {cs : List Call} (sub : cs ⊆ calls) (h : layer ∈ cs.filterMap (·.layer?)) :
      (∃ d, .defaults d ∈ calls ∧ layer = d.val) ∨ layer.IsLayer := by
    obtain ⟨c, hc, added⟩ := List.mem_filterMap.1 h
    rcases isLayer_of_layer? added with ⟨d, rfl, same⟩ | sound
    · exact .inl ⟨d, sub hc, same⟩
    · exact .inr sound
  rcases List.mem_append.1 h with h | h
  · exact traced (fun c hc => (List.mem_filter.1 (List.mem_reverse.1 hc)).1) h
  · exact traced (fun c hc => (List.mem_filter.1 hc).1) h

theorem isOrdered_of_mem_inOrder {layer : Config} (h : layer ∈ inOrder calls) :
    layer.IsOrdered := by
  rcases cases_of_mem_inOrder h with ⟨d, -, rfl⟩ | sound
  · exact d.property
  · exact sound.ordered

theorem mem_inOrder_of_defaults {d : {c : Config // c.IsOrdered}} (h : .defaults d ∈ calls) :
    d.val ∈ inOrder calls := by
  refine List.mem_append_left _ (List.mem_filterMap.2 ⟨.defaults d, ?_, rfl⟩)
  exact List.mem_reverse.2 (List.mem_filter.2 ⟨h, rfl⟩)

/-! ### What is found -/

theorem root_merged (l : Layers) :
    l.merged.root =
      match l.values.find? (!·.isTable) with
      | some c => Decoder.mismatch "map" c
      | none => .ok (Config.merge l.values) := by
  unfold merged
  dsimp only
  congr 2
  funext c
  cases c <;> rfl

theorem root_of_isTable (tables : ∀ c ∈ l.values, c.isTable = true) :
    l.merged.root = .ok (Config.merge l.values) := by
  have none_found : l.values.find? (!·.isTable) = none :=
    List.find?_eq_none.2 fun c hc => by simp [tables c hc]
  rw [root_merged, none_found]

/-- A layer that is no table spoils all queries. -/
theorem root_of_not_isTable (h : ∃ c ∈ l.values, c.isTable = false) :
    ∃ c ∈ l.values, c.isTable = false ∧ l.merged.root = Decoder.mismatch "map" c := by
  obtain ⟨c, hc, no_table⟩ := h
  obtain ⟨c', found⟩ : ∃ c', l.values.find? (!·.isTable) = some c' := by
    rw [← Option.isSome_iff_exists, List.find?_isSome]
    exact ⟨c, hc, by simp [no_table]⟩
  refine ⟨c', List.mem_of_find?_eq_some found, by simpa using List.find?_some found, ?_⟩
  rw [root_merged, found]

variable {α : Type}

theorem get_of_at? {s : Settings} {root c : Config} (read : Decoder α) {key : String}
    (merged : s.root = .ok root) (found : root.at? (Config.pathOfKey key) = some c) :
    s.get read key = s.answer key (read c) := by
  rw [Settings.get, merged]
  dsimp only
  rw [found]

theorem get_of_missing {s : Settings} {root : Config} (read : Decoder α) {key : String}
    (merged : s.root = .ok root) (missing : root.at? (Config.pathOfKey key) = none) :
    s.get read key =
      .error (.missingField key (s.stems.map (Environment.variableFor · key))) := by
  rw [Settings.get, merged]
  dsimp only
  rw [missing]
  rfl

/-- **The latest layer decides.**  However sources are added and defaults with them, if all
defaults are tables:

- What the latest layer that touches the path of a key has there is found under the key, unless
  it is a table or a list.
- If it is a list, it is found with the lists of earlier layers in front of it, down to the first
  layer that touches the path and has no list there.
- What no layer has is missing.  The whole configuration is always there.

Defaults that are no table spoil all queries. -/
theorem latest_layer_decides (loaded : load calls = .ok l) (read : Decoder α) (key : String) :
    let path := Config.pathOfKey key
    ((∀ d, .defaults d ∈ calls → d.val.isTable = true) →
      (∀ before layer after v, inOrder calls = before ++ layer :: after →
        (∀ c ∈ after, c.touches path = false) → layer.at? path = some v →
        (v.isTable = false → (∀ items, v ≠ .list items) →
          l.merged.get read key = l.merged.answer key (read v)) ∧
        ∀ items, v = .list items →
          l.merged.get read key = l.merged.answer key
            (read (.list (Config.listsAt path before.reverse ++ items)))) ∧
      ((∀ c ∈ inOrder calls, c.at? path = none) →
        l.merged.get read key =
          if path = [] then l.merged.answer key (read (.table []))
          else .error (.missingField key (l.merged.stems.map (Environment.variableFor · key))))) ∧
    ((∃ d, .defaults d ∈ calls ∧ d.val.isTable = false) →
      ∃ d, .defaults d ∈ calls ∧ d.val.isTable = false ∧
        l.merged.get read key =
          .error (.invalidFieldType "" "map" (Decoder.described d.val))) := by
  intro path
  have values_eq : l.values = inOrder calls := values_of_load loaded
  have layers_ordered : ∀ c ∈ inOrder calls, c.IsOrdered := fun _ => isOrdered_of_mem_inOrder
  constructor
  · intro tables
    have root_eq : l.merged.root = .ok (Config.merge (inOrder calls)) := by
      rw [root_of_isTable, values_eq]
      intro c hc
      rcases cases_of_mem_inOrder (values_eq ▸ hc) with ⟨d, given, rfl⟩ | sound
      · exact tables d given
      · exact sound.table
    constructor
    · intro before layer after v split untouched found
      rw [split] at root_eq layers_ordered
      constructor
      · intro no_table no_list
        have at_eq := Config.at?_merge_of_latest layers_ordered untouched found no_table
        rw [Config.behind_of_ne_list no_list] at at_eq
        exact get_of_at? read root_eq at_eq
      · rintro items rfl
        exact get_of_at? read root_eq
          (Config.at?_merge_of_latest layers_ordered untouched found rfl)
    · intro absent
      split_ifs with whole
      · -- every layer has a value at the empty path, so there are no layers
        have no_layers : inOrder calls = [] := by
          refine List.eq_nil_iff_forall_not_mem.2 fun c hc => ?_
          have := absent c hc
          rw [whole, Config.at?_nil] at this
          cases this
        rw [no_layers] at root_eq
        refine get_of_at? read root_eq ?_
        rw [show Config.pathOfKey key = [] from whole]
        rfl
      · exact get_of_missing read root_eq (Config.at?_merge_eq_none layers_ordered whole absent)
  · rintro ⟨d, given, no_table⟩
    obtain ⟨c, hc, no_table', root_eq⟩ :=
      root_of_not_isTable ⟨d.val, values_eq ▸ mem_inOrder_of_defaults given, no_table⟩
    rcases cases_of_mem_inOrder (values_eq ▸ hc) with ⟨d', given', rfl⟩ | sound
    · refine ⟨d', given', no_table', ?_⟩
      rw [Settings.get, root_eq]
      rfl
    · rw [sound.table] at no_table'
      cases no_table'

/-! ### Two configurations -/

/-- A number where the files below have a table. -/
def sampleDefaults : Config := .table [("a", .unsigned 0)]

theorem isOrdered_sampleDefaults : sampleDefaults.IsOrdered := by
  refine Config.isOrdered_table (List.pairwise_singleton _ _) fun e he => ?_
  obtain rfl := List.mem_singleton.1 he
  exact Config.isOrdered_of_not_isTable rfl

/-- Two files, and defaults that are added between them. -/
def sampleCalls : List Call :=
  [.json "first.json" (some (Utf8.encode "\x7b\"a\":\x7b\"b\":1\x7d\x7d")),
    .defaults ⟨sampleDefaults, isOrdered_sampleDefaults⟩,
    .json "second.json" (some (Utf8.encode "\x7b\"a\":\x7b\"b\":2\x7d\x7d"))]

theorem latest_layer_decides_sample :
    ∃ l, load sampleCalls = .ok l ∧ l.merged.get Decoder.signed64 "a.b" = .ok 2 ∧
      l.merged.get Decoder.signed64 "c" = .error (.missingField "c" []) := by
  have layers_eq : inOrder sampleCalls =
      [sampleDefaults, .table [("a", .table [("b", .unsigned 1)])]] ++
        .table [("a", .table [("b", .unsigned 2)])] :: [] := rfl
  have tables (d : {c : Config // c.IsOrdered}) (given : .defaults d ∈ sampleCalls) :
      d.val.isTable = true := by
    obtain rfl : d = ⟨sampleDefaults, isOrdered_sampleDefaults⟩ := by
      simpa [sampleCalls] using given
    rfl
  obtain ⟨l, loaded⟩ : ∃ l, load sampleCalls = .ok l := ⟨_, rfl⟩
  have stems_eq : l.merged.stems = [] := by
    cases loaded
    rfl
  refine ⟨l, loaded, ?_, ?_⟩
  · have latest := ((latest_layer_decides loaded Decoder.signed64 "a.b").1 tables).1 _ _ _
      (.unsigned 2) layers_eq nofun rfl
    exact latest.1 rfl nofun
  · have missing := ((latest_layer_decides loaded Decoder.signed64 "c").1 tables).2
      (by rw [layers_eq]; decide +kernel)
    rw [missing, stems_eq, if_neg (by decide +kernel)]
    rfl

/-- Two files with a list each under one name. -/
def listCalls : List Call :=
  [.json "first.json" (some (Utf8.encode "\x7b\"a\":[1]\x7d")),
    .json "second.json" (some (Utf8.encode "\x7b\"a\":[2]\x7d"))]

/-- The list of the latest layer is not what is found. -/
theorem list_is_not_overridden :
    ∃ l v, load listCalls = .ok l ∧
      inOrder listCalls = [.table [("a", .list [.unsigned 1])], .table [("a", v)]] ∧
      v.isTable = false ∧
      l.merged.get (Decoder.list Decoder.signed64) "a" ≠
        l.merged.answer "a" (Decoder.list Decoder.signed64 v) := by
  refine ⟨_, .list [.unsigned 2], rfl, rfl, rfl, ?_⟩
  decide +kernel

end Layers
end MetricRelay
