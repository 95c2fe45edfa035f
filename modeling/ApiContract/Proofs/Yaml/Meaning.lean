import ApiContract.Options.Reader
import ApiContract.Proofs.Except
import ApiContract.Proofs.Fields
import ApiContract.Yaml.Reader

/-!
Values that YAML means. Their mappings have no text for a key twice, and a text is never a thing that can
be in several places (`isProper_of_read`); so it is inside of them too (`Value.IsProper.inside`). What
entries of such a value say of their texts they still say as a mapping (`fieldsOf?_mapOf`).
-/

namespace ApiContract

variable {es : List (Value × Value)} {fs : List (String × Value)} {v w key : Value} {k : String}

/-- The entries whose keys are texts. -/
def textEntries (es : List (Value × Value)) : List (String × Value) := es.filterMap Yaml.textKey?

/-- Fields as entries. -/
def fieldEntries (fs : List (String × Value)) : List (Value × Value) :=
  fs.map fun p => (.str p.1, p.2)

namespace Value

/-- A value whose mappings have no text for a key twice, and whose texts are no things that can be in
several places. -/
inductive IsProper : Value → Prop where
  | atom {v : Value} (h : v.isAtom = true) : IsProper v
  | date (d : Date) : IsProper (date d)
  | moment (d : Date) (t : TimeOfDay) : IsProper (moment d t)
  | list {vs : List Value} (h : ∀ v ∈ vs, IsProper v) : IsProper (list vs)
  | set {vs : List Value} (h : ∀ v ∈ vs, IsProper v) : IsProper (set vs)
  | map {fs : List (String × Value)} (hkeys : (keys fs).Nodup) (h : ∀ p ∈ fs, IsProper p.2) :
    IsProper (map fs)
  | pair {v w : Value} (hv : IsProper v) (hw : IsProper w) : IsProper (pair v w)
  | table {es : List (Value × Value)} (hkeys : (keys (textEntries es)).Nodup)
    (h : ∀ e ∈ es, IsProper e.1) (h' : ∀ e ∈ es, IsProper e.2) : IsProper (table es)
  | shared {v : Value} (id : Identity) (hbare : ∀ s, v.bare ≠ str s) (h : IsProper v) :
    IsProper (shared id v)
  | again (id : Identity) (isList : Bool) : IsProper (again id isList)

lemma IsProper.eq_str {s : String} (h : v.IsProper) (hs : v.bare = str s) : v = str s := by
  cases h with
  | shared id hbare _ => exact absurd hs (hbare s)
  | atom hatom => cases v <;> first | exact hs | cases hatom
  | _ => cases hs

/-! ### Looking inside -/

lemma replaceAll_eq (id : Identity) (w : Value) (vs : List Value) :
    replaceAll id w vs = vs.map (replace id w) := by
  induction vs with
  | nil => rfl
  | cons v vs ih => rw [replaceAll, ih, List.map_cons]

lemma replaceFields_eq (id : Identity) (w : Value) (fs : List (String × Value)) :
    replaceFields id w fs = fs.map fun p => (p.1, replace id w p.2) := by
  induction fs with
  | nil => rfl
  | cons p fs ih => rw [replaceFields, ih, List.map_cons]

lemma replaceEntries_eq (id : Identity) (w : Value) (es : List (Value × Value)) :
    replaceEntries id w es = es.map fun e => (replace id w e.1, replace id w e.2) := by
  induction es with
  | nil => rfl
  | cons e es ih => rw [replaceEntries, ih, List.map_cons]

lemma replace_of_isAtom {id : Identity} (h : v.isAtom = true) : replace id w v = v := by
  cases v <;> first | rfl | cases h

/-- Nothing becomes a text where no text is put. -/
lemma bare_replace_ne {id : Identity} {s : String} (hw : ∀ s, w.bare ≠ str s) :
    (v : Value) → v.bare ≠ str s → (replace id w v).bare ≠ str s
  | null, h | bool _, h | int _, h | real _, h | str _, h | bytes _, h | date _, h | moment _ _, h
  | torn _, h => h
  | list _, _ | map _, _ | set _, _ | pair _ _, _ | table _, _ => nofun
  | shared _ v, h => bare_replace_ne hw v h
  | again i l, h => by
    rw [replace]
    split
    · exact hw s
    · exact h

lemma keys_textEntries_replace {id : Identity} (hw : ∀ s, w.bare ≠ str s) (es : List (Value × Value)) :
    keys (textEntries (es.map fun e => (replace id w e.1, replace id w e.2))) =
      keys (textEntries es) := by
  induction es with
  | nil => rfl
  | cons e es ih =>
    obtain ⟨k, v⟩ := e
    cases k with
    | str s => exact congrArg (s :: ·) ih
    | again i l =>
      have hkey : Yaml.textKey? (replace id w (again i l), replace id w v) = none := by
        have hne : ∀ s, (replace id w (again i l)).bare ≠ str s := fun s =>
          bare_replace_ne hw (again i l) nofun
        revert hne
        generalize replace id w (again i l) = key
        intro hne
        cases key <;> first | rfl | exact absurd rfl (hne _)
      rw [List.map_cons, textEntries, List.filterMap_cons_none hkey]
      exact ih
    | _ => exact ih

lemma IsProper.replace {id : Identity} (hw : w.IsProper) (hbare : ∀ s, w.bare ≠ str s)
    (h : v.IsProper) : (replace id w v).IsProper := by
  induction h with
  | atom h => rw [replace_of_isAtom h]; exact .atom h
  | date d => exact .date d
  | moment d t => exact .moment d t
  | list h ih =>
    rw [Value.replace, replaceAll_eq]
    exact .list (List.forall_mem_map.2 ih)
  | set h ih =>
    rw [Value.replace, replaceAll_eq]
    exact .set (List.forall_mem_map.2 ih)
  | map hkeys h ih =>
    rw [Value.replace, replaceFields_eq]
    refine .map ?_ (List.forall_mem_map.2 ih)
    rwa [keys, List.map_map]
  | pair hv hw ihv ihw => exact .pair ihv ihw
  | table hkeys h h' ih ih' =>
    rw [Value.replace, replaceEntries_eq]
    refine .table ?_ (List.forall_mem_map.2 ih) (List.forall_mem_map.2 ih')
    rwa [keys_textEntries_replace hbare]
  | shared i hv h ih => exact .shared i (fun s => bare_replace_ne hbare _ (hv s)) ih
  | again i l =>
    rw [Value.replace]
    split
    · exact hw
    · exact .again i l

/-- What is inside of a value that is well made is well made. -/
theorem IsProper.inside (h : v.IsProper) : v.inside.IsProper := by
  cases h with
  | shared id hbare h => exact IsProper.replace (.shared id hbare h) hbare h
  | atom hatom => cases v <;> first | exact .atom hatom | cases hatom
  | date d => exact .date d
  | moment d t => exact .moment d t
  | list h => exact .list h
  | set h => exact .set h
  | map hkeys h => exact .map hkeys h
  | pair hv hw => exact .pair hv hw
  | table hkeys h h' => exact .table hkeys h h'
  | again id l => exact .again id l

end Value

namespace Yaml

/-! ### Entries whose keys are texts -/

@[simp] lemma textEntries_cons_str (k : String) (v : Value) (es : List (Value × Value)) :
    textEntries ((.str k, v) :: es) = (k, v) :: textEntries es := rfl

lemma textKey?_of_ne (h : ∀ s, key ≠ .str s) (v : Value) : textKey? (key, v) = none := by
  cases key with
  | str s => exact absurd rfl (h s)
  | _ => rfl

lemma textEntries_cons_of_ne (h : ∀ s, key ≠ .str s) (v : Value) (es : List (Value × Value)) :
    textEntries ((key, v) :: es) = textEntries es :=
  List.filterMap_cons_none (textKey?_of_ne h v)

@[simp] lemma textEntries_fieldEntries (fs : List (String × Value)) :
    textEntries (fieldEntries fs) = fs := by
  induction fs with
  | nil => rfl
  | cons p fs ih => exact congrArg (p :: ·) ih

lemma mapM_textKey?_eq_some_iff : es.mapM textKey? = some fs ↔ es = fieldEntries fs := by
  constructor
  · intro h
    induction es generalizing fs with
    | nil => cases h; rfl
    | cons e es ih =>
      obtain ⟨key, v⟩ := e
      rw [List.mapM_cons] at h
      obtain ⟨p, hp, h⟩ := Option.bind_eq_some_iff.1 h
      obtain ⟨rest, hrest, h⟩ := Option.bind_eq_some_iff.1 h
      cases h
      cases key with
      | str k => cases hp; rw [ih hrest]; rfl
      | _ => cases hp
  · rintro rfl
    induction fs with
    | nil => rfl
    | cons p fs ih =>
      rw [fieldEntries, List.map_cons, List.mapM_cons]
      exact congrArg (Option.bind · fun rest => some (p :: rest)) ih

/-! ### Keys that are the same -/

lemma sameKey_str (s k : String) : sameKey (.str s) (.str k) = (s == k) := rfl

lemma putEntry_fieldEntries (k : String) (v : Value) (fs : List (String × Value)) :
    putEntry (.str k) v (fieldEntries fs) = fieldEntries (putField k v fs) := by
  induction fs with
  | nil => rfl
  | cons f fs ih =>
    change (if sameKey (.str f.1) (.str k) = true then _
      else (.str f.1, f.2) :: putEntry (.str k) v (fieldEntries fs)) = _
    rw [sameKey_str, putField]
    by_cases hk : f.1 = k
    · rw [if_pos (by simpa using hk), if_pos hk, hk]
      rfl
    · rw [if_neg (by simpa using hk), if_neg hk, ih]
      rfl

lemma bare_ne_str_of_wholeNumber? {n : Int} (h : wholeNumber? v = some n) (s : String) :
    v.bare ≠ .str s := by
  cases v with
  | bool b => nofun
  | int n => nofun
  | real x => nofun
  | _ => cases h

/-- Of two keys that are the same, both are a text or none is. -/
lemma bare_eq_str_iff {s : String} (h : sameKey v w = true) : v.bare = .str s ↔ w.bare = .str s := by
  unfold sameKey at h
  split at h
  · rename_i m n hv hw
    exact iff_of_false (bare_ne_str_of_wholeNumber? hv s) (bare_ne_str_of_wholeNumber? hw s)
  · split at h
    case h_2 hv hw => rw [hv, hw, eq_of_beq h]
    case h_8 => cases h
    all_goals
      rename_i hv hw
      exact iff_of_false (by rw [hv]; nofun) (by rw [hw]; nofun)
  · cases h

lemma sameKey_str_iff (h : v.IsProper) : sameKey v (.str k) = true ↔ v = .str k := by
  constructor
  · intro hsame
    exact h.eq_str ((bare_eq_str_iff hsame).2 rfl)
  · rintro rfl
    rw [sameKey_str, beq_self_eq_true]

/-! ### Entries that are written one after the other -/

lemma forall_mem_putEntry {P Q : Value → Prop} (hes : ∀ e ∈ es, P e.1 ∧ Q e.2) (hkey : P key)
    (hv : Q v) : ∀ e ∈ putEntry key v es, P e.1 ∧ Q e.2 := by
  induction es with
  | nil => exact List.forall_mem_singleton.2 ⟨hkey, hv⟩
  | cons e es ih =>
    obtain ⟨⟨hk, hw⟩, hes⟩ := List.forall_mem_cons.1 hes
    unfold putEntry
    split
    · exact List.forall_mem_cons.2 ⟨⟨hk, hv⟩, hes⟩
    · exact List.forall_mem_cons.2 ⟨⟨hk, hw⟩, ih hes⟩

/-- A text is put where it is among the texts. -/
lemma textEntries_putEntry_str (hes : ∀ e ∈ es, e.1.IsProper) (k : String) (v : Value) :
    textEntries (putEntry (.str k) v es) = putField k v (textEntries es) := by
  induction es with
  | nil => rfl
  | cons e es ih =>
    obtain ⟨key, w⟩ := e
    obtain ⟨hkey, hes⟩ := List.forall_mem_cons.1 hes
    specialize ih hes
    unfold putEntry
    by_cases hk : key = .str k
    · subst hk
      rw [if_pos ((sameKey_str_iff hkey).2 rfl), textEntries_cons_str, textEntries_cons_str, putField,
        if_pos rfl]
    · rw [if_neg fun h => hk ((sameKey_str_iff hkey).1 h)]
      by_cases hs : ∃ s, key = .str s
      · obtain ⟨s, rfl⟩ := hs
        have hsk : s ≠ k := fun h => hk (congrArg Value.str h)
        rw [textEntries_cons_str, textEntries_cons_str, putField, if_neg hsk, ih]
      · rw [textEntries_cons_of_ne (not_exists.1 hs), textEntries_cons_of_ne (not_exists.1 hs), ih]

/-- What is no text leaves the texts as they are. -/
lemma textEntries_putEntry_of_ne (hkey : key.IsProper) (hne : ∀ s, key ≠ .str s) (v : Value)
    (es : List (Value × Value)) : textEntries (putEntry key v es) = textEntries es := by
  induction es with
  | nil => exact textEntries_cons_of_ne hne v []
  | cons e es ih =>
    obtain ⟨key', w⟩ := e
    unfold putEntry
    by_cases hs : ∃ s, key' = .str s
    · obtain ⟨s, rfl⟩ := hs
      have hsame : sameKey (.str s) key ≠ true := fun h =>
        hne s (hkey.eq_str ((bare_eq_str_iff h).1 rfl))
      rw [if_neg hsame, textEntries_cons_str, textEntries_cons_str, ih]
    · split
      · rw [textEntries_cons_of_ne (not_exists.1 hs), textEntries_cons_of_ne (not_exists.1 hs)]
      · rw [textEntries_cons_of_ne (not_exists.1 hs), textEntries_cons_of_ne (not_exists.1 hs), ih]

/-- The entries that remain of entries that are written one after the other. -/
def writtenEntries (es : List (Value × Value)) : List (Value × Value) :=
  es.foldl (fun es e => putEntry e.1 e.2 es) []

lemma writtenEntries_concat (es : List (Value × Value)) (e : Value × Value) :
    writtenEntries (es ++ [e]) = putEntry e.1 e.2 (writtenEntries es) := by
  rw [writtenEntries, List.foldl_append]
  rfl

lemma forall_mem_writtenEntries {P Q : Value → Prop} (hes : ∀ e ∈ es, P e.1 ∧ Q e.2) :
    ∀ e ∈ writtenEntries es, P e.1 ∧ Q e.2 := by
  induction es using List.reverseRecOn with
  | nil => exact nofun
  | append_singleton es e ih =>
    obtain ⟨hes, he⟩ := List.forall_mem_append.1 hes
    obtain ⟨hkey, hv⟩ := he e (List.mem_singleton.2 rfl)
    rw [writtenEntries_concat]
    exact forall_mem_putEntry (ih hes) hkey hv

/-- **Entries with texts for keys are written like fields.** -/
theorem textEntries_writtenEntries (hes : ∀ e ∈ es, e.1.IsProper) :
    textEntries (writtenEntries es) = fieldsOf (textEntries es) := by
  induction es using List.reverseRecOn with
  | nil => rfl
  | append_singleton es e ih =>
    obtain ⟨key, v⟩ := e
    obtain ⟨hes, he⟩ := List.forall_mem_append.1 hes
    specialize ih hes
    have hwritten : ∀ e ∈ writtenEntries es, e.1.IsProper := fun e he =>
      (forall_mem_writtenEntries (Q := fun _ => True) (fun e he => ⟨hes e he, trivial⟩) e he).1
    have hkey : key.IsProper := he _ (List.mem_singleton.2 rfl)
    have happend : textEntries (es ++ [(key, v)]) = textEntries es ++ textEntries [(key, v)] :=
      List.filterMap_append
    rw [writtenEntries_concat, happend]
    by_cases hs : ∃ s, key = .str s
    · obtain ⟨s, rfl⟩ := hs
      rw [textEntries_putEntry_str hwritten, ih]
      exact (fieldsOf_concat _ (s, v)).symm
    · rw [textEntries_putEntry_of_ne hkey (not_exists.1 hs), ih,
        textEntries_cons_of_ne (not_exists.1 hs)]
      exact congrArg fieldsOf (List.append_nil _).symm

lemma mapOf_eq (es : List (Value × Value)) :
    (∃ fs, mapOf es = .map fs ∧ writtenEntries es = fieldEntries fs) ∨
      mapOf es = .table (writtenEntries es) := by
  unfold mapOf
  simp only
  split
  · rename_i fs hfs
    exact .inl ⟨fs, rfl, mapM_textKey?_eq_some_iff.1 hfs⟩
  · exact .inr rfl

/-- The fields of a mapping that entries make. -/
lemma fieldsOf?_mapOf (hes : ∀ e ∈ es, e.1.IsProper) :
    fieldsOf? (mapOf es) = some (fieldsOf (textEntries es)) := by
  rw [← textEntries_writtenEntries hes]
  rcases mapOf_eq es with ⟨fs, hmap, hfs⟩ | htable
  · rw [hmap, hfs, textEntries_fieldEntries]
    rfl
  · rw [htable]
    rfl

lemma bare_mapOf_ne (es : List (Value × Value)) (s : String) : (mapOf es).bare ≠ .str s := by
  rcases mapOf_eq es with ⟨fs, hmap, -⟩ | htable
  · rw [hmap]; nofun
  · rw [htable]; nofun

lemma isProper_mapOf (hes : ∀ e ∈ es, e.1.IsProper ∧ e.2.IsProper) : (mapOf es).IsProper := by
  have hwritten := forall_mem_writtenEntries hes
  have hkeys : (keys (textEntries (writtenEntries es))).Nodup := by
    rw [textEntries_writtenEntries fun e he => (hes e he).1]
    exact nodup_keys_fieldsOf _
  rcases mapOf_eq es with ⟨fs, hmap, hfs⟩ | htable
  · rw [hfs, textEntries_fieldEntries] at hkeys
    rw [hfs] at hwritten
    rw [hmap]
    exact .map hkeys fun p hp => (hwritten _ (List.mem_map_of_mem hp)).2
  · rw [htable]
    exact .table hkeys (fun e he => (hwritten e he).1) fun e he => (hwritten e he).2

/-! ### Nodes -/

lemma isProper_momentOf {text : String} (h : momentOf text = .ok v) : v.IsProper := by
  have hunless {fault : Option String} {a : Value} (h : unlessFault fault a = .ok v) : a = v := by
    unfold unlessFault at h
    split at h <;> cases h
    rfl
  unfold momentOf at h
  split at h
  · cases h
  · rw [← hunless h]
    exact .date _
  · obtain ⟨-, -, h⟩ := bind_eq_ok_iff.1 h
    rw [← hunless h]
    exact .moment _ _

lemma isProper_scalarValue {purpose : Purpose} {text : String} (h : scalarValue purpose text = .ok v) :
    v.IsProper := by
  unfold scalarValue at h
  split at h
  · cases h
    exact .atom rfl
  · split at h <;> cases h
    exact .atom rfl
  · obtain ⟨n, -, rfl⟩ := map_eq_ok_iff.1 h
    exact .atom rfl
  · obtain ⟨x, -, rfl⟩ := map_eq_ok_iff.1 h
    exact .atom rfl
  · obtain ⟨bs, -, rfl⟩ := map_eq_ok_iff.1 h
    exact .atom rfl
  · exact isProper_momentOf h
  · cases h
    exact .atom rfl
  · cases h

lemma isProper_tornValue {purpose : Purpose} {text : Text.TornText} (h : tornValue purpose text = .ok v) :
    v.IsProper := by
  unfold tornValue at h
  split at h <;> cases h
  · exact .atom rfl
  · exact .atom rfl

lemma isProper_singleValue (number : Nat) (n : Node) (purpose : Purpose) :
    (singleValue number n purpose).IsProper := by
  unfold singleValue
  split
  · exact .shared _ nofun (.date _)
  · exact .shared _ nofun (.moment _ _)
  · rename_i v hv
    unfold Node.single at hv
    split at hv
    · cases hv
    · exact isProper_scalarValue hv
    · split at hv
      · exact isProper_tornValue hv
      · cases hv
  · exact .atom rfl

mutual

/-- **What a node means is well made.** -/
theorem isProper_value : (n : Node) → n.value.IsProper
  | .scalar number tag text | .torn number tag text => isProper_singleValue _ _ _
  | .sequence number tag items => by
    unfold Node.value
    split
    · exact .shared _ nofun (.list (isProper_pairValues number 0 items))
    · exact .shared _ nofun (.list (isProper_itemValues items))
  | .mapping number tag entries => by
    unfold Node.value
    split
    · exact .shared _ (bare_mapOf_ne _) (isProper_mapOf (isProper_entryValues entries))
    · refine .shared _ nofun (.set (List.forall_mem_map.2 fun e he => ?_))
      exact (forall_mem_writtenEntries (isProper_entryValues entries) e he).1
    · exact isProper_singleValue _ _ _
  | .again number isList => .again _ _

theorem isProper_itemValues : (ns : List Node) → ∀ v ∈ itemValues ns, v.IsProper
  | [] => nofun
  | n :: ns => List.forall_mem_cons.2 ⟨isProper_value n, isProper_itemValues ns⟩

theorem isProper_pairValues (number index : Nat) :
    (ns : List Node) → ∀ v ∈ pairValues number index ns, v.IsProper
  | [] => nofun
  | n :: ns => by
    unfold pairValues
    refine List.forall_mem_append.2 ⟨?_, isProper_pairValues number (index + 1) ns⟩
    split
    · rename_i es
      refine List.forall_mem_map.2 fun e he => ?_
      obtain ⟨hkey, hv⟩ := isProper_entryValues es e he
      exact .shared _ nofun (.pair hkey hv)
    · exact nofun

theorem isProper_entryValues :
    (es : List (Node × Node)) → ∀ e ∈ entryValues es, e.1.IsProper ∧ e.2.IsProper
  | [] => nofun
  | (key, value) :: es =>
    List.forall_mem_cons.2 ⟨⟨isProper_value key, isProper_value value⟩, isProper_entryValues es⟩

end

lemma isProper_of_read {p : Files.Portions} (h : Yaml.read p = .ok v) : v.IsProper := by
  unfold Yaml.read at h
  obtain ⟨n, -, h⟩ := bind_eq_ok_iff.1 h
  cases n with
  | none => cases h; exact .atom rfl
  | some n =>
    change n.meaning = .ok v at h
    unfold Node.meaning at h
    split at h <;> cases h
    exact isProper_value _

end Yaml

end ApiContract
