import MetricRelay.Proofs.Config.Lookup
import MetricRelay.Proofs.Config.Names

/-!
# The variables that set keys

The error about a value that is missing names the variables that would set it, one for each word
that variables were looked up with (`Layers.setters_of_get`).  Such a variable does set the key of
the value: alone in the environment it adds a layer that has its value there
(`Layers.exists_addEnvironment`), and so the value is not missing any more
(`Layers.get_ne_missing`).  It sets nothing else, and no other key has the same variable
(`Layers.suggested_variable_sets_key`).
-/

namespace MetricRelay
namespace Layers

variable {α : Type}

/-- Of a field that is missing, the variables that would set it are named. -/
theorem setters_of_get {s : Settings} {read : Decoder α} {key field : String}
    {setters : List String} (missing : s.get read key = .error (.missingField field setters)) :
    setters = s.stems.map (Environment.variableFor · field) := by
  have explained {key : String} {e : FieldError}
      (h : s.explain key e = .missingField field setters) :
      setters = s.stems.map (Environment.variableFor · field) := by
    cases e with
    | missing name =>
      cases h
      rfl
    | mismatch path expected found => cases h
    | rejected => cases h
  unfold Settings.get at missing
  split at missing
  · exact explained (Except.error.inj missing)
  · split at missing
    · exact explained (Except.error.inj missing)
    · cases result : read _ with
      | ok a =>
        rw [result] at missing
        cases missing
      | error e =>
        rw [result] at missing
        exact explained (Except.error.inj missing)

/-- The variables with a stem that was looked up are among them. -/
theorem variableFor_mem_setters {l : Layers} {stem : String} (known : stem ∈ l.stems)
    {read : Decoder α} {key field : String} {setters : List String}
    (missing : l.merged.get read key = .error (.missingField field setters)) :
    Environment.variableFor stem field ∈ setters := by
  rw [setters_of_get missing]
  exact List.mem_map_of_mem known

theorem stem_mem_of_addEnvironment {l l' : Layers} {word : String}
    {settings : List (String × String)} (h : l.addEnvironment word settings = .ok l') :
    Environment.stem word ∈ l'.stems := by
  unfold addEnvironment at h
  split at h
  · cases h
  · split_ifs at h
    dsimp only at h
    split at h
    · cases h
    · cases h
      change _ ∈ if l.stems.contains _ then l.stems else l.stems ++ [_]
      split_ifs with known
      · exact List.contains_iff_mem.1 known
      · exact List.mem_append_right _ (List.mem_singleton_self _)

theorem answer_ne_missing {s : Settings} {key : String} {r : Except FieldError α}
    (complete : Decoder.LacksNothing r) (field : String) (setters : List String) :
    s.answer key r ≠ .error (.missingField field setters) := by
  intro missing
  cases r with
  | ok a => cases missing
  | error e =>
    cases e with
    | missing name => exact complete name rfl
    | mismatch path expected found => cases missing
    | rejected => cases missing

section Variable

variable {word key text : String} {value : Config} (hw : Environment.IsWord word)
  (hk : Environment.IsPlainKey key) (settable : text.contains '\x00' = false)
  (held : Environment.value? text = some value)

include hw hk settable held in
/-- The variable of a key adds a layer with its value at the path of the key. -/
theorem exists_addEnvironment (l : Layers) :
    ∃ l', l.addEnvironment word [(Environment.variableFor (Environment.stem word) key, text)] =
      .ok l' ∧ l'.values = l.values ++ [value.nested (Config.namesOfKey key)] := by
  have sound := Environment.isVariable_variableFor hw hk settable
  have read := Environment.layer_of_path? (Environment.path?_variableFor hw hk) held
  have nonempty : word.isEmpty = false := by
    rw [← Bool.not_eq_true, String.isEmpty_iff]
    exact hw.nonempty
  obtain ⟨l', added⟩ : ∃ l', l.addEnvironment word
      [(Environment.variableFor (Environment.stem word) key, text)] = .ok l' := by
    rw [addEnvironment, List.find?_cons]
    dsimp only
    rw [sound, read, nonempty]
    exact ⟨_, rfl⟩
  refine ⟨l', added, ?_⟩
  rw [values_of_addEnvironment added, read]
  rfl

variable {l l' : Layers} (single : value.isTable = false) (no_list : ∀ items, value ≠ .list items)

include hk single no_list in
/-- Unless some layer below is no table, the value is what is read. -/
theorem get_of_nested (values : l'.values = l.values ++ [value.nested (Config.namesOfKey key)])
    (tables : ∀ c ∈ l.values, c.isTable = true) (read : Decoder α) :
    l'.merged.get read key = l'.merged.answer key (read value) := by
  have root_eq : l'.merged.root =
      .ok (Config.merge (l.values ++ [value.nested (Config.namesOfKey key)])) := by
    rw [root_of_isTable, values]
    rw [values, List.forall_mem_append, List.forall_mem_singleton]
    exact ⟨tables, Config.isTable_nested value (Config.namesOfKey_ne_nil key)⟩
  refine get_of_at? read root_eq ?_
  rw [hk.pathOfKey_eq]
  exact Config.at?_merge_nested single no_list _ _

include hk single no_list in
/-- The value is not missing any more. -/
theorem get_ne_missing (values : l'.values = l.values ++ [value.nested (Config.namesOfKey key)])
    {read : Decoder α} (complete : read.RequiresNothing) (field : String)
    (setters : List String) : l'.merged.get read key ≠ .error (.missingField field setters) := by
  intro missing
  by_cases tables : ∀ c ∈ l.values, c.isTable = true
  · rw [get_of_nested hk single no_list values tables] at missing
    exact answer_ne_missing (complete value) field setters missing
  · obtain ⟨c, hc, no_table⟩ : ∃ c ∈ l'.values, c.isTable = false := by
      rw [values]
      simpa using Or.inl tables
    obtain ⟨c, -, -, root_eq⟩ := root_of_not_isTable ⟨c, hc, no_table⟩
    rw [Settings.get, root_eq] at missing
    cases missing

end Variable

/-- **The variable that is named for a missing value is the one that sets it.**  For every word
that variables may start with and every key of plain names:

- A look-up that does not find the key names the variable, once variables that start with the word
  were looked up.
- The variable alone, with a single value in its text, adds a layer that has this value at the path
  of the key, tables on the way there, and nothing else.
- The value of the key is then not missing any more, whatever single value is expected.  It is
  what is read, unless some layer below is no table.
- No other such key has this variable. -/
theorem suggested_variable_sets_key {word key text : String} {value : Config}
    (hw : Environment.IsWord word) (hk : Environment.IsPlainKey key)
    (settable : text.contains '\x00' = false) (held : Environment.value? text = some value)
    (single : value.isTable = false) (no_list : ∀ items, value ≠ .list items) :
    let name := Environment.variableFor (Environment.stem word) key
    let path := Config.namesOfKey key
    (∀ (l l' : Layers) settings, l.addEnvironment word settings = .ok l' →
      ∀ {α : Type} (read : Decoder α) setters,
        l'.merged.get read key = .error (.missingField key setters) → name ∈ setters) ∧
    (∀ l : Layers, ∃ l' layer, l.addEnvironment word [(name, text)] = .ok l' ∧
      l'.values = l.values ++ [layer] ∧
      (layer.at? path = some value ∧
        (∀ start, start <+: path → start ≠ path →
          ∃ entries, layer.at? start = some (.table entries)) ∧
        ∀ other, ¬other <+: path → layer.at? other = none) ∧
      (∀ {α : Type} (read : Decoder α), read.IsScalar → ∀ field setters,
        l'.merged.get read key ≠ .error (.missingField field setters)) ∧
      ((∀ c ∈ l.values, c.isTable = true) → ∀ {α : Type} (read : Decoder α),
        l'.merged.get read key = l'.merged.answer key (read value))) ∧
    (∀ key', Environment.IsPlainKey key' →
      Environment.variableFor (Environment.stem word) key' = name → key' = key) := by
  intro name path
  refine ⟨fun l l' settings added α read setters missing =>
    variableFor_mem_setters (stem_mem_of_addEnvironment added) missing, fun l => ?_, ?_⟩
  · obtain ⟨l', added, values⟩ := exists_addEnvironment hw hk settable held l
    refine ⟨l', value.nested path, added, values, ⟨Config.at?_nested value path, ?_, ?_⟩, ?_, ?_⟩
    · rintro start ⟨rest, whole⟩ proper
      have inside : rest ≠ [] := by
        rintro rfl
        exact proper (by rw [← whole, List.append_nil])
      rw [← whole, Config.at?_nested_append]
      obtain ⟨entries, table⟩ := Config.eq_table_of_isTable (Config.isTable_nested value inside)
      exact ⟨entries, congrArg some table⟩
    · exact fun other beside => Config.at?_nested_eq_none single beside
    · exact fun read scalar => get_ne_missing hk single no_list values scalar.requiresNothing
    · exact fun tables {α} read => get_of_nested hk single no_list values tables read
  · intro key' hk' same
    have names_eq : Config.namesOfKey key' = Config.namesOfKey key := by
      have read := Environment.path?_variableFor hw hk'
      rw [same, Environment.path?_variableFor hw hk] at read
      exact (Option.some.inj read).symm
    rw [← Config.intercalate_namesOfKey key', names_eq, Config.intercalate_namesOfKey]

theorem suggested_variable_sets_key_sample :
    ∃ l, Layers.addEnvironment {} "sluice" [("SLUICE_RETRY__MAX_RETRIES", "7")] = .ok l ∧
      l.merged.get Decoder.unsigned32 "retry.max_retries" = .ok 7 := by
  have word : Environment.IsWord "sluice" :=
    ⟨by decide, List.all_eq_true.1 (by decide)⟩
  have key : Environment.IsPlainKey "retry.max_retries" := by
    have names_eq : Config.namesOfKey "retry.max_retries" = ["retry", "max_retries"] := rfl
    rw [Environment.IsPlainKey, names_eq, List.forall_mem_cons, List.forall_mem_singleton]
    constructor
    · exact ⟨by decide, List.all_eq_true.1 (by decide), by decide, by decide⟩
    · exact ⟨by decide, List.all_eq_true.1 (by decide), by decide, by decide⟩
  have settable : "7".contains '\x00' = false := by
    rw [String.contains_char_eq]
    decide
  have held : Environment.value? "7" = some (.unsigned 7) := rfl
  obtain ⟨-, sets, -⟩ := suggested_variable_sets_key word key settable held rfl nofun
  obtain ⟨l, layer, added, -, -, -, answered⟩ := sets {}
  have name_eq : Environment.variableFor (Environment.stem "sluice") "retry.max_retries" =
      "SLUICE_RETRY__MAX_RETRIES" := by decide +kernel
  rw [name_eq] at added
  exact ⟨l, added, answered nofun Decoder.unsigned32⟩

end Layers
end MetricRelay
