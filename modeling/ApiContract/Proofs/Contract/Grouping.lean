import ApiContract.Contract.Grouping
import Mathlib.Data.List.Induction
import Mathlib.Data.List.Nodup

/-!
The groups that elements make. No two groups have one name (`nodup_names_group`), and no group is empty
(`isFilled_of_mem_group`). If no name can end in both suffixes, then the role of an element depends on
its name alone, and the group of a name has the last element of either name with a suffix
(`groupOf?_group`).
-/

namespace ApiContract.Contract

variable {α : Type} {q r name n : String} {nameOf : α → String}

/-! ### Names with suffixes -/

lemma eq_ofList_append {s suffix : String} {l : List Char} (h : s.toList = l ++ suffix.toList) :
    s = .ofList l ++ suffix := by
  rw [← String.toList_inj, String.toList_append, String.toList_ofList, h]

lemma stem?_eq_some_iff {suffix p : String} (h : suffix ≠ "") :
    stem? suffix name = some p ↔ name = p ++ suffix := by
  have he : suffix.isEmpty = false := by simpa using h
  rw [stem?, he, if_neg Bool.false_ne_true]
  constructor
  · intro hp
    split at hp
    case isTrue hs =>
      obtain ⟨l, hl⟩ := List.isSuffixOf_iff_suffix.1 hs
      rw [← hl, List.length_append, Nat.add_sub_cancel, List.take_left] at hp
      cases hp
      exact eq_ofList_append hl.symm
    case isFalse => cases hp
  · rintro rfl
    rw [String.toList_append, if_pos (List.isSuffixOf_iff_suffix.2 (List.suffix_append _ _)),
      List.length_append, Nat.add_sub_cancel, List.take_left, String.ofList_toList]

lemma stem?_eq_none_iff {suffix : String} (h : suffix ≠ "") :
    stem? suffix name = none ↔ ∀ p, name ≠ p ++ suffix := by
  rw [Option.eq_none_iff_forall_ne_some]
  exact forall_congr' fun p => not_congr (stem?_eq_some_iff h)

/-- The suffixes are not empty, and neither is a suffix of the other. -/
structure Apart (q r : String) : Prop where
  left_ne : q ≠ ""
  right_ne : r ≠ ""
  left_not_suffix : ∀ s, r ≠ s ++ q
  right_not_suffix : ∀ s, q ≠ s ++ r

theorem apart_iff : Apart q r ↔ q ≠ "" ∧ r ≠ "" ∧ stem? q r = none ∧ stem? r q = none := by
  constructor
  · rintro ⟨hq, hr, hqr, hrq⟩
    refine ⟨hq, hr, Option.eq_none_iff_forall_ne_some.2 fun s h => ?_,
      Option.eq_none_iff_forall_ne_some.2 fun s h => ?_⟩
    · exact hqr s ((stem?_eq_some_iff hq).1 h)
    · exact hrq s ((stem?_eq_some_iff hr).1 h)
  · rintro ⟨hq, hr, hqr, hrq⟩
    refine ⟨hq, hr, fun s h => ?_, fun s h => ?_⟩
    · rw [(stem?_eq_some_iff hq).2 h] at hqr; cases hqr
    · rw [(stem?_eq_some_iff hr).2 h] at hrq; cases hrq

instance : Decidable (Apart q r) := decidable_of_iff' _ apart_iff

/-- No name ends in both. -/
lemma Apart.append_ne (h : Apart q r) (m n : String) : m ++ q ≠ n ++ r := by
  intro he
  rw [← String.toList_inj, String.toList_append, String.toList_append,
    List.append_eq_append_iff] at he
  rcases he with ⟨l, -, hl⟩ | ⟨l, -, hl⟩
  · exact h.right_not_suffix _ (eq_ofList_append hl)
  · exact h.left_not_suffix _ (eq_ofList_append hl)

/-! ### Roles -/

/-- The name of the operation that the role is in. -/
def Role.operation : Role → String
  | request n => n
  | response n => n

/-- The name that an element in the role has. -/
def Role.elementName (q r : String) : Role → String
  | request n => n ++ q
  | response n => n ++ r

/-- The group with an element in the role. -/
def Role.fill (a : α) (g : Group α) : Role → Group α
  | request _ => { g with request := some a }
  | response _ => { g with response := some a }

lemma Role.fill_name (a : α) (g : Group α) (x : Role) : (x.fill a g).name = g.name := by
  cases x <;> rfl

lemma assign_eq (gs : List (Group α)) (a : α) (x : Role) :
    assign gs a x = updateGroup x.operation (x.fill a) gs := by
  cases x <;> rfl

/-- An element that is given a role has the name that the role asks for, whatever groups are there. -/
lemma elementName_of_role? (hq : q ≠ "") (hr : r ≠ "") {gs : List (Group α)} {x : Role}
    (h : role? q r gs name = some x) : name = x.elementName q r := by
  unfold role? at h
  split at h
  · rename_i m hm
    have hname : name = m ++ r := (stem?_eq_some_iff hr).1 hm
    split at h
    · cases h
      exact hname
    · split at h
      · rename_i k hk
        cases h
        exact (stem?_eq_some_iff hq).1 hk
      · cases h
        exact hname
  · obtain ⟨k, hk, rfl⟩ := Option.map_eq_some_iff.1 h
    exact (stem?_eq_some_iff hq).1 hk

/-- An element has no role exactly if its name has neither suffix. -/
lemma role?_eq_none_iff (hq : q ≠ "") (hr : r ≠ "") {gs : List (Group α)} :
    role? q r gs name = none ↔ ∀ x : Role, name ≠ x.elementName q r := by
  have hnone : role? q r gs name = none ↔ stem? q name = none ∧ stem? r name = none := by
    unfold role?
    cases stem? r name with
    | none => simp
    | some m =>
      -- a name with the response suffix always has a role
      refine iff_of_false ?_ fun h => Option.some_ne_none _ h.2
      dsimp only
      split
      · exact Option.some_ne_none _
      · cases stem? q name <;> exact Option.some_ne_none _
  rw [hnone, stem?_eq_none_iff hq, stem?_eq_none_iff hr]
  constructor
  · rintro ⟨hreq, hres⟩ x
    cases x with
    | request m => exact hreq m
    | response m => exact hres m
  · intro h
    exact ⟨fun m => h (.request m), fun m => h (.response m)⟩

lemma Apart.elementName_injective (h : Apart q r) : Function.Injective (Role.elementName q r) := by
  intro x y he
  cases x <;> cases y
  · rw [(String.append_left_inj q).1 he]
  · exact absurd he (h.append_ne _ _)
  · exact absurd he.symm (h.append_ne _ _)
  · rw [(String.append_left_inj r).1 he]

/-- **The role of an element depends on its name alone** if no name ends in both suffixes. -/
theorem role?_eq_some_iff (h : Apart q r) (gs : List (Group α)) {x : Role} :
    role? q r gs name = some x ↔ name = x.elementName q r := by
  refine ⟨elementName_of_role? h.left_ne h.right_ne, fun hname => ?_⟩
  cases hy : role? q r gs name with
  | none => exact absurd hname ((role?_eq_none_iff h.left_ne h.right_ne).1 hy x)
  | some y =>
    have hxy := (elementName_of_role? h.left_ne h.right_ne hy).symm.trans hname
    rw [h.elementName_injective hxy]

/-! ### The group of a name -/

/-- The first group of a name. -/
def groupOf? (gs : List (Group α)) (n : String) : Option (Group α) := gs.find? (·.name == n)

lemma groupOf?_updateGroup {f : Group α → Group α} (hf : ∀ g, (f g).name = g.name)
    (gs : List (Group α)) (m n : String) : groupOf? (updateGroup m f gs) n =
      if n = m then some (f ((groupOf? gs m).getD ⟨m, none, none⟩)) else groupOf? gs n := by
  induction gs with
  | nil =>
    by_cases h : n = m
    · simp [updateGroup, groupOf?, hf, h]
    · simp [updateGroup, groupOf?, hf, h, Ne.symm h]
  | cons g gs ih =>
    unfold updateGroup
    by_cases hg : g.name = m
    · rw [if_pos hg]
      by_cases h : n = m
      · simp [groupOf?, hf, hg, h]
      · simp [groupOf?, hf, hg, h, Ne.symm h]
    · rw [if_neg hg]
      unfold groupOf? at ih ⊢
      by_cases h : g.name = n
      · have hn : n ≠ m := h ▸ hg
        simp [h, hn]
      · simp [h, hg, ih]

/-! ### Names of groups -/

lemma mem_names_updateGroup {f : Group α → Group α} (hf : ∀ g, (f g).name = g.name)
    {gs : List (Group α)} {m : String} :
    n ∈ (updateGroup m f gs).map Group.name ↔ n = m ∨ n ∈ gs.map Group.name := by
  induction gs with
  | nil => simp [updateGroup, hf]
  | cons g gs ih =>
    unfold updateGroup
    by_cases hg : g.name = m
    · simp [hg, hf]
    · rw [if_neg hg, List.map_cons, List.mem_cons, ih, List.map_cons, List.mem_cons]
      exact or_left_comm

lemma nodup_names_updateGroup {f : Group α → Group α} (hf : ∀ g, (f g).name = g.name)
    {gs : List (Group α)} (m : String) (h : (gs.map Group.name).Nodup) :
    ((updateGroup m f gs).map Group.name).Nodup := by
  induction gs with
  | nil => simp [updateGroup]
  | cons g gs ih =>
    rw [List.map_cons, List.nodup_cons] at h
    unfold updateGroup
    by_cases hg : g.name = m
    · rw [if_pos hg, List.map_cons, hf, List.nodup_cons]
      exact h
    · rw [if_neg hg, List.map_cons, List.nodup_cons, mem_names_updateGroup hf]
      exact ⟨fun hm => hm.elim hg h.1, ih h.2⟩

lemma group_concat (q r : String) (nameOf : α → String) (es : List α) (e : α) :
    group q r nameOf (es ++ [e]) = addElement q r nameOf (group q r nameOf es) e := by
  simp [group]

/-- **No two groups have one name.** -/
theorem nodup_names_group (q r : String) (nameOf : α → String) (es : List α) :
    ((group q r nameOf es).map Group.name).Nodup := by
  induction es using List.reverseRecOn with
  | nil => exact List.nodup_nil
  | append_singleton es e ih =>
    rw [group_concat, addElement]
    split
    case h_1 x hx =>
      rw [assign_eq]
      exact nodup_names_updateGroup (fun g => x.fill_name e g) _ ih
    case h_2 => exact ih

/-! ### Groups by the last elements -/

/-- The last element of a name. -/
def lastNamed (nameOf : α → String) (n : String) (es : List α) : Option α :=
  (es.filter (nameOf · == n)).getLast?

lemma lastNamed_concat (nameOf : α → String) (n : String) (es : List α) (e : α) :
    lastNamed nameOf n (es ++ [e]) = if nameOf e = n then some e else lastNamed nameOf n es := by
  unfold lastNamed
  rw [List.filter_append]
  by_cases h : nameOf e = n
  · rw [List.filter_cons_of_pos (by simpa using h), List.filter_nil, List.getLast?_concat, if_pos h]
  · rw [List.filter_cons_of_neg (by simpa using h), List.filter_nil, List.append_nil, if_neg h]

lemma isSome_lastNamed {es : List α} :
    (lastNamed nameOf n es).isSome ↔ ∃ e ∈ es, nameOf e = n := by
  rw [lastNamed, List.getLast?_isSome, ne_eq, List.filter_eq_nil_iff]
  simp

/-- The last elements of the two names that an operation asks for. -/
def lastPair (q r : String) (nameOf : α → String) (es : List α) (n : String) : Group α :=
  ⟨n, lastNamed nameOf (n ++ q) es, lastNamed nameOf (n ++ r) es⟩

@[simp] lemma lastPair_name (es : List α) : (lastPair q r nameOf es n).name = n := rfl

/-- Whether there is a request or a response. -/
def Group.isFilled (g : Group α) : Bool := g.request.isSome || g.response.isSome

/-- A group that is not there yet is as good as one that is not filled. -/
lemma Group.getD_filter_isFilled (g : Group α) :
    ((some g).filter isFilled).getD ⟨g.name, none, none⟩ = g := by
  rw [Option.filter_some]
  by_cases hg : g.isFilled
  · rw [if_pos hg, Option.getD_some]
  · obtain ⟨m, req, res⟩ := g
    simp only [isFilled, Bool.or_eq_true, not_or, Bool.not_eq_true, Option.isSome_eq_false_iff,
      Option.isNone_iff_eq_none] at hg
    obtain ⟨rfl, rfl⟩ := hg
    rfl

lemma Role.isFilled_fill (a : α) (g : Group α) (x : Role) : (x.fill a g).isFilled = true := by
  cases x <;> simp [fill, Group.isFilled]

/-- An element takes its role in the pair of one operation, and all other pairs stay. -/
lemma lastPair_concat (h : Apart q r) {x : Role} {e : α} (hx : nameOf e = x.elementName q r)
    (es : List α) (n : String) : lastPair q r nameOf (es ++ [e]) n =
      if n = x.operation then x.fill e (lastPair q r nameOf es n)
      else lastPair q r nameOf es n := by
  unfold lastPair
  rw [lastNamed_concat, lastNamed_concat, hx]
  cases x with
  | request m =>
    have hr : m ++ q ≠ n ++ r := h.append_ne m n
    by_cases hn : n = m
    · simp [Role.elementName, Role.operation, Role.fill, hn, h.append_ne]
    · simp [Role.elementName, Role.operation, hn, Ne.symm hn, hr]
  | response m =>
    have hq : m ++ r ≠ n ++ q := (h.append_ne n m).symm
    by_cases hn : n = m
    · simp [Role.elementName, Role.operation, Role.fill, hn, (h.append_ne _ _).symm]
    · simp [Role.elementName, Role.operation, hn, Ne.symm hn, hq]

lemma lastPair_concat_of_ne {e : α} (he : ∀ x : Role, nameOf e ≠ x.elementName q r) (es : List α)
    (n : String) : lastPair q r nameOf (es ++ [e]) n = lastPair q r nameOf es n := by
  have hq : nameOf e ≠ n ++ q := he (.request n)
  have hr : nameOf e ≠ n ++ r := he (.response n)
  unfold lastPair
  rw [lastNamed_concat, lastNamed_concat, if_neg hq, if_neg hr]

lemma mem_updateGroup {f : Group α → Group α} {gs : List (Group α)} {m : String} {g : Group α}
    (h : g ∈ updateGroup m f gs) : (∃ g₀, g = f g₀) ∨ g ∈ gs := by
  induction gs with
  | nil => exact .inl ⟨_, List.mem_singleton.1 h⟩
  | cons g' gs ih =>
    unfold updateGroup at h
    by_cases hg : g'.name = m
    · rw [if_pos hg, List.mem_cons] at h
      rcases h with h | h
      · exact .inl ⟨g', h⟩
      · exact .inr (List.mem_cons_of_mem _ h)
    · rw [if_neg hg, List.mem_cons] at h
      rcases h with rfl | h
      · exact .inr List.mem_cons_self
      · exact (ih h).imp_right (List.mem_cons_of_mem _)

/-- **No group is empty**, whatever the suffixes are. -/
theorem isFilled_of_mem_group {es : List α} {g : Group α} (h : g ∈ group q r nameOf es) :
    g.isFilled = true := by
  induction es using List.reverseRecOn with
  | nil => cases h
  | append_singleton es e ih =>
    rw [group_concat, addElement] at h
    cases hx : role? q r (group q r nameOf es) (nameOf e) with
    | none =>
      rw [hx] at h
      exact ih h
    | some x =>
      simp only [hx, assign_eq] at h
      rcases mem_updateGroup h with ⟨g₀, rfl⟩ | h
      · exact x.isFilled_fill e g₀
      · exact ih h

/-- **The group of a name has the last element of either name with a suffix**, and there is none if
there are no such elements. -/
theorem groupOf?_group (h : Apart q r) (nameOf : α → String) (es : List α) (n : String) :
    groupOf? (group q r nameOf es) n =
      (some (lastPair q r nameOf es n)).filter Group.isFilled := by
  induction es using List.reverseRecOn generalizing n with
  | nil => rfl
  | append_singleton es e ih =>
    rw [group_concat, addElement]
    cases hx : role? q r (group q r nameOf es) (nameOf e) with
    | none =>
      have he : ∀ x : Role, nameOf e ≠ x.elementName q r := by
        intro x hn
        rw [(role?_eq_some_iff h _).2 hn] at hx
        cases hx
      rw [lastPair_concat_of_ne he]
      exact ih n
    | some x =>
      have he := (role?_eq_some_iff h _).1 hx
      simp only [assign_eq]
      rw [groupOf?_updateGroup (fun g => x.fill_name e g), lastPair_concat h he, ih, ih]
      by_cases hn : n = x.operation
      · subst hn
        have hd := (lastPair q r nameOf es x.operation).getD_filter_isFilled
        rw [lastPair_name] at hd
        rw [if_pos rfl, if_pos rfl, hd, Option.filter_some, if_pos (x.isFilled_fill e _)]
      · rw [if_neg hn, if_neg hn]

lemma groupOf?_eq_some_iff {gs : List (Group α)} (h : (gs.map Group.name).Nodup) {g : Group α} :
    groupOf? gs n = some g ↔ g ∈ gs ∧ g.name = n := by
  constructor
  · intro hg
    exact ⟨List.mem_of_find?_eq_some hg, by simpa using List.find?_some hg⟩
  · rintro ⟨hg, rfl⟩
    cases hf : groupOf? gs g.name with
    | none =>
      have := List.find?_eq_none.1 hf g hg
      simp at this
    | some g' =>
      have hn : g'.name = g.name := by simpa using List.find?_some hf
      rw [List.inj_on_of_nodup_map h (List.mem_of_find?_eq_some hf) hg hn]

/-- The groups are the pairs of last elements where one of the two is there. -/
theorem mem_group_iff (h : Apart q r) {es : List α} {g : Group α} :
    g ∈ group q r nameOf es ↔ g = lastPair q r nameOf es g.name ∧ g.isFilled = true := by
  have hg : g ∈ group q r nameOf es ↔ groupOf? (group q r nameOf es) g.name = some g := by
    rw [groupOf?_eq_some_iff (nodup_names_group q r nameOf es), and_iff_left rfl]
  rw [hg, groupOf?_group h, Option.filter_eq_some_iff, Option.some.injEq]
  exact and_congr_left' eq_comm

end ApiContract.Contract
