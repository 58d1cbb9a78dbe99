import MetricRelay.Proofs.Config.Paths

/-!
# Names of variables

Making the name of a variable out of a key and reading a path off the name of a variable are
written independently of each other.  They are inverse (`Environment.path?_variableFor`) for keys
of plain names (`Environment.IsPlainName`): in such a name there is nothing that upper case would
lose, and pairs of underscores stand only where two names meet (`Environment.names_intercalate`).
-/

namespace MetricRelay
namespace Environment

/-! ### Plain characters -/

/-- Letters, digits and underscores of ASCII. -/
def isWordChar (c : Char) : Bool := c.isAlphanum || c == '_'

/-- Small letters, digits and underscores of ASCII. -/
def isSmallChar (c : Char) : Bool := c.isLower || c.isDigit || c == '_'

variable {c : Char} {cs : List Char}

theorem isWordChar_of_isSmallChar (h : isSmallChar c = true) : isWordChar c = true := by
  obtain plain | underscore := Bool.or_eq_true_iff.1 h
  · refine Bool.or_eq_true_iff.2 (.inl (Bool.or_eq_true_iff.2 ?_))
    obtain lower | digit := Bool.or_eq_true_iff.1 plain
    · exact .inl (Bool.or_eq_true_iff.2 (.inr lower))
    · exact .inr digit
  · exact Bool.or_eq_true_iff.2 (.inr underscore)

theorem toNat_lt_of_isWordChar (h : isWordChar c = true) : c.toNat < 0x80 := by
  have upTo (last : Char) (le : c.val ≤ last.val) (bound : last.toNat < 0x80) :
      c.toNat < 0x80 := Nat.lt_of_le_of_lt le bound
  obtain alphanum | underscore := Bool.or_eq_true_iff.1 h
  · obtain alpha | digit := Bool.or_eq_true_iff.1 alphanum
    · obtain capital | small := Bool.or_eq_true_iff.1 alpha
      · exact upTo 'Z' (of_decide_eq_true capital).2 (by decide)
      · exact upTo 'z' (of_decide_eq_true (Bool.and_eq_true_iff.1 small).2) (by decide)
    · exact upTo '9' (of_decide_eq_true (Bool.and_eq_true_iff.1 digit).2) (by decide)
  · rw [beq_iff_eq.1 underscore]
    decide

/-- What is true of every such character below 128 is true of all of them. -/
theorem of_isWordChar {P : Char → Prop}
    (ascii : ∀ n < 0x80, isWordChar (Char.ofNat n) = true → P (Char.ofNat n))
    (h : isWordChar c = true) : P c := by
  have := ascii c.toNat (toNat_lt_of_isWordChar h)
  rw [Char.ofNat_toNat] at this
  exact this h

theorem isWordChar_toUpper (h : isWordChar c = true) : isWordChar c.toUpper = true :=
  of_isWordChar (P := fun c => isWordChar c.toUpper = true) (by decide +kernel) h

theorem isBlank_of_isWordChar (h : isWordChar c = true) : isBlank c = false :=
  of_isWordChar (P := fun c => isBlank c = false) (by decide +kernel) h

theorem toLower_toUpper (h : isSmallChar c = true) : c.toUpper.toLower = c :=
  of_isWordChar (P := fun c => isSmallChar c = true → c.toUpper.toLower = c) (by decide +kernel)
    (isWordChar_of_isSmallChar h) h

theorem trimBlank_of_isWordChar (h : ∀ c ∈ cs, isWordChar c = true) : trimBlank cs = cs := by
  have kept {cs : List Char} (h : ∀ c ∈ cs, isWordChar c = true) :
      cs.dropWhile isBlank = cs := by
    refine List.dropWhile_eq_self_iff.2 fun nonempty => ?_
    simp [isBlank_of_isWordChar (h _ (List.getElem_mem nonempty))]
  rw [trimBlank, kept h, kept fun c hc => h c (List.mem_reverse.1 hc), List.reverse_reverse]

theorem toList_uppercase {s : String} (h : ∀ c ∈ s.toList, isWordChar c = true) :
    (uppercase s).toList = s.toList.map Char.toUpper := by
  rw [uppercase, String.toList_ofList, ← List.flatMap_pure_eq_map]
  refine List.flatMap_congr fun c hc => ?_
  rw [uppercaseChar, if_pos (toNat_lt_of_isWordChar (h c hc))]
  rfl

/-! ### Stems -/

/-- What the variables of a configuration may start with. -/
structure IsWord (word : String) : Prop where
  nonempty : word ≠ ""
  plain : ∀ c ∈ word.toList, isWordChar c = true

theorem IsWord.isWordChar_of_mem_stem {word : String} (h : IsWord word) :
    ∀ c ∈ (stem word).toList, isWordChar c = true := by
  have upper : ∀ c ∈ (uppercase word).toList, isWordChar c = true := by
    rw [toList_uppercase h.plain, List.forall_mem_map]
    exact fun c hc => isWordChar_toUpper (h.plain c hc)
  unfold Environment.stem
  split_ifs
  · exact upper
  · rw [String.toList_append, List.forall_mem_append]
    exact ⟨upper, List.forall_mem_singleton.2 rfl⟩

theorem IsWord.stem_ne_empty {word : String} (h : IsWord word) : Environment.stem word ≠ "" := by
  unfold Environment.stem
  split_ifs
  · intro empty
    have upper := toList_uppercase h.plain
    rw [empty] at upper
    exact h.nonempty (String.toList_eq_nil_iff.1 (List.map_eq_nil_iff.1 upper.symm))
  · simp

theorem dropStart?_append (start cs : List Char) : dropStart? start (start ++ cs) = some cs := by
  induction start with
  | nil => rfl
  | cons c start ih => rw [List.cons_append, dropStart?, if_pos rfl, ih]

/-! ### Names between pairs of underscores -/

/-- A name of small letters, digits and underscores.  There is no pair of underscores in it, and
none comes about when a separator is put behind it.  An underscore in front does no harm. -/
structure IsPlainName (name : String) : Prop where
  nonempty : name ≠ ""
  small : ∀ c ∈ name.toList, isSmallChar c = true
  single : ¬['_', '_'] <:+: name.toList
  closed : name.toList.getLast? ≠ some '_'

/-- The first pair of underscores is not within the characters, even if underscores follow. -/
theorem IsPlainName.no_pair {name : String} (h : IsPlainName name) :
    ¬['_', '_'] <:+: name.toList ++ ['_'] := by
  rw [List.infix_concat_iff, not_or]
  refine ⟨fun ending => ?_, h.single⟩
  obtain nil | ⟨start, pair, ending⟩ := List.suffix_concat_iff.1 ending
  · cases nil
  · obtain rfl : start = ['_'] := (List.append_inj_left' pair rfl).symm
    obtain ⟨front, name_eq⟩ := ending
    exact h.closed (by rw [← name_eq, List.getLast?_append]; rfl)

theorem names_cons (dot : c ≠ '.') (pair : ¬['_', '_'] <+: c :: cs) {first : List Char}
    {others : List (List Char)} (read : names cs = first :: others) :
    names (c :: cs) = (c :: first) :: others := by
  rw [names, if_neg dot, read]
  rintro rest rfl rfl
  exact pair ⟨rest, rfl⟩

/-- Characters without a pair of underscores belong to the first name. -/
theorem names_append {rest first : List Char} {others : List (List Char)} (dot : '.' ∉ cs)
    (pair : ¬['_', '_'] <:+: cs ++ ['_']) (read : names rest = first :: others) :
    names (cs ++ rest) = (cs ++ first) :: others := by
  induction cs with
  | nil => exact read
  | cons c cs ih =>
    rw [List.mem_cons, not_or] at dot
    refine names_cons (Ne.symm dot.1) (fun here => pair ?_)
      (ih dot.2 fun inside => pair (List.infix_cons inside))
    -- the second underscore is in the characters or right behind them
    obtain ⟨rfl, next⟩ := List.cons_prefix_cons.1 here
    refine List.IsPrefix.isInfix (List.cons_prefix_cons.2 ⟨rfl, ?_⟩)
    cases cs with
    | nil => exact List.prefix_refl _
    | cons c cs => exact List.cons_prefix_cons.2 ⟨(List.cons_prefix_cons.1 next).1, List.nil_prefix⟩

/-- **Pairs of underscores separate the names that they join.** -/
theorem names_intercalate {ns : List (List Char)} (nonempty : ns ≠ [])
    (dots : ∀ n ∈ ns, '.' ∉ n) (pairs : ∀ n ∈ ns, ¬['_', '_'] <:+: n ++ ['_']) :
    names (['_', '_'].intercalate ns) = ns := by
  induction ns with
  | nil => exact absurd rfl nonempty
  | cons n ns ih =>
    rw [List.forall_mem_cons] at dots pairs
    cases ns with
    | nil =>
      have read := names_append dots.1 pairs.1 (rfl : names [] = [] :: [])
      rw [List.append_nil] at read
      rw [List.intercalate_singleton, read]
    | cons n' ns =>
      have later : names ('_' :: '_' :: ['_', '_'].intercalate (n' :: ns)) = [] :: n' :: ns := by
        rw [names, ih (List.cons_ne_nil _ _) dots.2 pairs.2]
      have read := names_append dots.1 pairs.1 later
      rw [List.append_nil] at read
      rw [List.intercalate_cons_cons, List.append_assoc]
      exact read

/-! ### Names of variables -/

/-- The key consists of plain names. -/
def IsPlainKey (key : String) : Prop := ∀ name ∈ Config.namesOfKey key, IsPlainName name

variable {word key : String}

theorem IsPlainKey.pathOfKey_eq (h : IsPlainKey key) :
    Config.pathOfKey key = Config.namesOfKey key :=
  Config.pathOfKey_eq_namesOfKey fun mem => (h "" mem).nonempty rfl

theorem IsPlainName.dot_not_mem {name : String} (h : IsPlainName name) : '.' ∉ name.toList := by
  intro mem
  have := h.small '.' mem
  revert this
  decide

/-- What is joined has no other items than the parts and what is put between them. -/
theorem forall_mem_intercalate {α : Type} {P : α → Prop} {between : List α} {ns : List (List α)}
    (separator : ∀ a ∈ between, P a) (h : ∀ n ∈ ns, ∀ a ∈ n, P a) :
    ∀ a ∈ between.intercalate ns, P a := by
  induction ns with
  | nil => exact nofun
  | cons n ns ih =>
    rw [List.forall_mem_cons] at h
    cases ns with
    | nil =>
      rw [List.intercalate_singleton]
      exact h.1
    | cons n' ns =>
      rw [List.intercalate_cons_cons, List.forall_mem_append, List.forall_mem_append]
      exact ⟨⟨h.1, separator⟩, ih h.2⟩

/-- Every point becomes a pair of underscores. -/
theorem flatMap_intercalate {ns : List (List Char)} (dots : ∀ n ∈ ns, '.' ∉ n) :
    (['.'].intercalate ns).flatMap (fun c => if c = '.' then ['_', '_'] else [c]) =
      ['_', '_'].intercalate ns := by
  have kept {n : List Char} (dot : '.' ∉ n) :
      n.flatMap (fun c => if c = '.' then ['_', '_'] else [c]) = n := by
    rw [← List.flatMap_singleton' n, List.flatMap_assoc]
    refine List.flatMap_congr fun c hc => ?_
    rw [List.flatMap_singleton, if_neg (ne_of_mem_of_not_mem hc dot)]
  induction ns with
  | nil => rfl
  | cons n ns ih =>
    rw [List.forall_mem_cons] at dots
    cases ns with
    | nil => rw [List.intercalate_singleton, List.intercalate_singleton, kept dots.1]
    | cons n' ns =>
      rw [List.intercalate_cons_cons, List.intercalate_cons_cons, List.flatMap_append,
        List.flatMap_append, kept dots.1, ih dots.2]
      rfl

/-- The names of a key as they stand in its variable but for case. -/
def joined (key : String) : List Char :=
  ['_', '_'].intercalate ((Config.namesOfKey key).map String.toList)

theorem isSmallChar_of_mem_joined (h : IsPlainKey key) :
    ∀ c ∈ joined key, isSmallChar c = true := by
  refine forall_mem_intercalate (fun c hc => ?_)
    (List.forall_mem_map.2 fun name mem => (h name mem).small)
  obtain rfl : c = '_' := by simpa using hc
  rfl

theorem toList_variableFor (stem : String) (h : IsPlainKey key) :
    (variableFor stem key).toList = stem.toList ++ (joined key).map Char.toUpper := by
  have undotted : (key.toList.flatMap fun c => if c = '.' then ['_', '_'] else [c]) =
      joined key := by
    conv_lhs => rw [← Config.intercalate_namesOfKey key, String.toList_intercalate]
    exact flatMap_intercalate (List.forall_mem_map.2 fun name mem => (h name mem).dot_not_mem)
  have plain : ∀ c ∈ (String.ofList (joined key)).toList, isWordChar c = true := by
    rw [String.toList_ofList]
    exact fun c hc => isWordChar_of_isSmallChar (isSmallChar_of_mem_joined h c hc)
  rw [variableFor, undotted, String.toList_append, toList_uppercase plain, String.toList_ofList]

theorem isWordChar_of_mem_variableFor (hw : IsWord word) (hk : IsPlainKey key) :
    ∀ c ∈ (variableFor (stem word) key).toList, isWordChar c = true := by
  rw [toList_variableFor _ hk, List.forall_mem_append, List.forall_mem_map]
  exact ⟨hw.isWordChar_of_mem_stem, fun c hc =>
    isWordChar_toUpper (isWordChar_of_isSmallChar (isSmallChar_of_mem_joined hk c hc))⟩

/-- **The variable of a key is read as its path.** -/
theorem path?_variableFor (hw : IsWord word) (hk : IsPlainKey key) :
    path? (stem word) (variableFor (stem word) key) = some (Config.namesOfKey key) := by
  have small := isSmallChar_of_mem_joined hk
  have lower : ((joined key).map Char.toUpper).map Char.toLower = joined key := by
    rw [List.map_map]
    exact (List.map_congr_left fun c hc => toLower_toUpper (small c hc)).trans (List.map_id _)
  have split : names (joined key) = (Config.namesOfKey key).map String.toList := by
    exact names_intercalate (by simpa using Config.namesOfKey_ne_nil key)
      (List.forall_mem_map.2 fun name mem => (hk name mem).dot_not_mem)
      (List.forall_mem_map.2 fun name mem => (hk name mem).no_pair)
  have behind : ∀ c ∈ (joined key).map Char.toUpper, isWordChar c = true :=
    List.forall_mem_map.2 fun c hc => isWordChar_toUpper (isWordChar_of_isSmallChar (small c hc))
  have named : ((Config.namesOfKey key).map String.toList).any List.isEmpty = false := by
    rw [List.any_eq_false, List.forall_mem_map]
    intro name mem
    simpa using (hk name mem).nonempty
  rw [path?, trimBlank_of_isWordChar (isWordChar_of_mem_variableFor hw hk),
    toList_variableFor _ hk, dropStart?_append]
  dsimp only [Option.bind_eq_bind, Option.bind_some]
  rw [trimBlank_of_isWordChar behind, lower, split, named, List.map_map]
  simp [Function.comp_def]

/-- A variable that belongs to a stem and has a value that can be read nests it along its path. -/
theorem layer_of_path? {stem name text : String} {path : List String} {value : Config}
    (set : path? stem name = some path) (held : value? text = some value) :
    layer stem (ofSettings [(name, text)]) = .ok (value.nested path) := by
  obtain ⟨first, path, rfl⟩ := List.exists_cons_of_ne_nil (ne_nil_of_path? set)
  have environment : ofSettings [(name, text)] = [(name, text)] := rfl
  rw [environment, layer, List.foldlM_cons]
  dsimp only
  rw [set]
  dsimp only
  rw [held]
  rfl

theorem isVariable_variableFor {text : String} (hw : IsWord word) (hk : IsPlainKey key)
    (settable : text.contains '\x00' = false) :
    isVariable (variableFor (stem word) key) text = true := by
  have plain := isWordChar_of_mem_variableFor hw hk
  have absent {c : Char} (other : isWordChar c = false) :
      (variableFor (stem word) key).contains c = false := by
    rw [String.contains_char_eq, decide_eq_false_iff_not]
    intro mem
    rw [plain c mem] at other
    cases other
  have nonempty : (variableFor (stem word) key).isEmpty = false := by
    rw [← Bool.not_eq_true, String.isEmpty_iff]
    intro empty
    have parts := toList_variableFor (stem word) hk
    rw [empty] at parts
    exact hw.stem_ne_empty (String.toList_eq_nil_iff.1 (List.append_eq_nil_iff.1 parts.symm).1)
  rw [isVariable, nonempty, absent (by decide), absent (by decide), settable]
  rfl

end Environment
end MetricRelay
