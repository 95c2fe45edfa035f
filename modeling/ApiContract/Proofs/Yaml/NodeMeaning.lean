import ApiContract.Proofs.Yaml.Meaning
import ApiContract.Proofs.Yaml.Words

/-!
Nodes that mean values of JSON: scalars, lists, and mappings whose keys are texts. They take nothing over and
have no faults.
-/

namespace ApiContract

lemma fieldsOf_map {α β : Type} (f : α → β) (ps : List (String × α)) :
    fieldsOf (ps.map fun p => (p.1, f p.2)) = (fieldsOf ps).map fun p => (p.1, f p.2) := by
  have hput (k : String) (v : α) (fs : List (String × α)) :
      putField k (f v) (fs.map fun p => (p.1, f p.2)) = (putField k v fs).map fun p => (p.1, f p.2) := by
    induction fs with
    | nil => rfl
    | cons p fs ih =>
      rw [List.map_cons, putField, putField]
      split_ifs
      · rfl
      · rw [ih, List.map_cons]
  induction ps using List.reverseRecOn with
  | nil => rfl
  | append_singleton ps p ih =>
    rw [List.map_append, List.map_singleton, fieldsOf_concat, fieldsOf_concat, ih, hput]

namespace Value

lemma erasedFields_eq (fs : List (String × Value)) : erasedFields fs = fs.map fun p => (p.1, p.2.erased) := by
  induction fs with
  | nil => rfl
  | cons p fs ih => rw [erasedFields, ih, List.map_cons]

end Value

namespace Yaml

variable {cs : List Char} {i : ℕ} {n : Node} {s : String} {v w : Value}

/-- A node that takes nothing over, has no faults and means a value, apart from what is the same thing in it. -/
structure Means (n : Node) (w : Value) : Prop where
  merged : n.merged = n
  faults : ∀ level, n.faults level = []
  value : n.value.erased = w

lemma Means.meaning (h : Means n w) : ∃ v, n.meaning = .ok v ∧ v.erased = w := by
  refine ⟨n.value, ?_, h.value⟩
  rw [Node.meaning, h.merged, h.faults]
  rfl

/-! ### Scalars -/

lemma ofTag_coreTag : Purpose.ofTag (coreTag "str") = .text ∧ Purpose.ofTag (coreTag "seq") = .list ∧
    Purpose.ofTag (coreTag "map") = .map := by
  decide +kernel

lemma Means.scalar {tag : String} (h : scalarValue (.ofTag tag) s = .ok v) (hv : isWord v = true ∨ v = .str s)
    (hpurpose : (Purpose.ofTag tag).isCollection = false) : Means (.scalar i tag s) v := by
  have hsingle : (Node.scalar i tag s).single (.ofTag tag) = .ok v := by
    simp [Node.single, Node.text?, h]
  refine ⟨rfl, fun level => ?_, ?_⟩
  · rw [Node.faults, singleFaults, hpurpose, hsingle]
    rfl
  · rw [Node.value, singleValue, hsingle]
    obtain hword | rfl := hv
    · cases v <;> first | rfl | cases hword
    · rfl

/-- A scalar with a word means what the word stands for. -/
lemma Means.word (h : isWord v = true) (hlong : isLongWord v = false) (hcs : plainText? v = some cs) :
    Means (.ofPlain i (String.ofList cs)) v := by
  have hvalue := scalarValue_of_isWord h hlong hcs
  refine .scalar hvalue (.inl h) ?_
  generalize Purpose.ofTag (Kind.ofScalar (String.ofList cs)).tag = purpose at hvalue
  cases purpose <;> first | rfl | cases hvalue

lemma single_text : (Node.scalar i (coreTag "str") s).single (.ofTag (coreTag "str")) = .ok (.str s) := by
  rw [ofTag_coreTag.1]
  rfl

lemma Means.text : Means (.scalar i (coreTag "str") s) (.str s) := by
  refine .scalar ?_ (.inr rfl) ?_ <;> rw [ofTag_coreTag.1] <;> rfl

/-! ### Lists -/

lemma Means.list {ns : List Node} {ws : List Value} (h : List.Forall₂ Means ns ws) :
    Means (.sequence i (coreTag "seq") ns) (.list ws) := by
  have hmerged : mergedItems ns = ns := by
    induction h with
    | nil => rfl
    | cons hn _ ih => rw [mergedItems, hn.merged, ih]
  have hfaults (level : ℕ) : itemFaults level ns = [] := by
    induction h with
    | nil => rfl
    | cons hn _ ih =>
      rw [mergedItems] at hmerged
      rw [itemFaults, hn.faults, ih (List.cons.inj hmerged).2]
      rfl
  have hvalues : Value.erasedAll (itemValues ns) = ws := by
    clear hmerged hfaults
    induction h with
    | nil => rfl
    | cons hn _ ih => rw [itemValues, Value.erasedAll, hn.value, ih]
  refine ⟨?_, fun level => ?_, ?_⟩
  · rw [Node.merged, ofTag_coreTag.2.1, if_neg nofun, hmerged]
  · rw [Node.faults, ofTag_coreTag.2.1]
    exact hfaults _
  · rw [Node.value, ofTag_coreTag.2.1]
    exact congrArg Value.list hvalues

/-! ### Mappings -/

/-- An entry whose key is a text, and that means a field. -/
def EntryMeans (e : Node × Node) (f : String × Value) : Prop :=
  (∃ i, e.1 = .scalar i (coreTag "str") f.1) ∧ Means e.2 f.2

lemma isMergeKey_text :
    isMergeKey (.scalar i (coreTag "str") s) = false ∧ isValueKey (.scalar i (coreTag "str") s) = false := by
  have htag : (some (coreTag "str") == some (coreTag "merge")) = false ∧
      (some (coreTag "str") == some (coreTag "value")) = false := by decide +kernel
  exact htag

variable {es : List (Node × Node)} {fs : List (String × Value)}

lemma merge?_of_entryMeans (h : List.Forall₂ EntryMeans es fs) : merge? es = some ([], es) := by
  induction h with
  | nil => rfl
  | cons he _ ih =>
    rename_i e f es fs _
    obtain ⟨key, n⟩ := e
    obtain ⟨⟨i, rfl⟩, hn⟩ := he
    have hkey : plainKey (Node.scalar i (coreTag "str") f.1).merged = .scalar i (coreTag "str") f.1 := by
      rw [show (Node.scalar i (coreTag "str") f.1).merged = .scalar i (coreTag "str") f.1 from rfl, plainKey,
        isMergeKey_text.2]
      rfl
    rw [merge?, ih]
    simp only [Option.bind_eq_bind, Option.bind_some, isMergeKey_text.1, Bool.false_eq_true, if_false, hkey,
      hn.merged]
    rfl

lemma entryFaults_of_entryMeans (h : List.Forall₂ EntryMeans es fs) (level : ℕ) :
    entryFaults level es = [] := by
  induction h with
  | nil => rfl
  | cons he _ ih =>
    rename_i e f es fs _
    obtain ⟨key, n⟩ := e
    obtain ⟨⟨i, rfl⟩, hn⟩ := he
    have hkey : (Node.scalar i (coreTag "str") f.1).isKey = true := by
      change (!(Purpose.ofTag (coreTag "str")).isCollection) = true
      rw [ofTag_coreTag.1]
      rfl
    rw [entryFaults, Means.text.faults, hkey, hn.faults, ih]
    rfl

lemma entryValues_of_entryMeans (h : List.Forall₂ EntryMeans es fs) :
    ∃ gs, entryValues es = fieldEntries gs ∧ Value.erasedFields gs = fs := by
  induction h with
  | nil => exact ⟨[], rfl, rfl⟩
  | cons he _ ih =>
    rename_i e f es fs _
    obtain ⟨key, n⟩ := e
    obtain ⟨⟨i, rfl⟩, hn⟩ := he
    obtain ⟨gs, hgs, hfs⟩ := ih
    refine ⟨(f.1, n.value) :: gs, ?_, ?_⟩
    · have hkey : (Node.scalar i (coreTag "str") f.1).value = .str f.1 := by
        rw [Node.value, singleValue, single_text]
      rw [entryValues, hgs, hkey]
      rfl
    · rw [Value.erasedFields, hfs, hn.value]

lemma writtenEntries_fieldEntries (fs : List (String × Value)) :
    writtenEntries (fieldEntries fs) = fieldEntries (fieldsOf fs) := by
  induction fs using List.reverseRecOn with
  | nil => rfl
  | append_singleton fs f ih =>
    rw [fieldEntries, List.map_append, List.map_singleton, writtenEntries_concat, fieldsOf_concat]
    exact (congrArg (putEntry _ _) ih).trans (putEntry_fieldEntries _ _ _)

lemma mapOf_fieldEntries (fs : List (String × Value)) : mapOf (fieldEntries fs) = .map (fieldsOf fs) := by
  have hkeys := mapM_textKey?_eq_some_iff.2 (writtenEntries_fieldEntries fs)
  rw [writtenEntries] at hkeys
  rw [mapOf, hkeys]

lemma Means.map (h : List.Forall₂ EntryMeans es fs) :
    Means (.mapping i (coreTag "map") es) (.map (fieldsOf fs)) := by
  refine ⟨?_, fun level => ?_, ?_⟩
  · have hmap : [Purpose.map, .set].contains (Purpose.ofTag (coreTag "map")) = true := by
      rw [ofTag_coreTag.2.2]
      rfl
    rw [Node.merged, if_pos hmap, merge?_of_entryMeans h]
    rfl
  · rw [Node.faults, ofTag_coreTag.2.2]
    exact entryFaults_of_entryMeans h _
  · obtain ⟨gs, hgs, rfl⟩ := entryValues_of_entryMeans h
    rw [Node.value, ofTag_coreTag.2.2, hgs]
    simp only [thing, mapOf_fieldEntries, Value.erased, Value.erasedFields_eq, fieldsOf_map]

end Yaml

end ApiContract
