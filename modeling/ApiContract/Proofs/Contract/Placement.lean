import ApiContract.Proofs.Contract.Grouping

/-!
Which element has which role, whatever the suffixes are. Grouping does not look at elements but for their
names (`group_map`), so it can be told for elements with their positions. Each position is given at most one
role, which its name asks for, and a later position that is given the same role takes it over
(`holder?_placed_concat`). So no element is lost but to a later one of its name, and none has a role that is
not its own (`isPlacement_group`).
-/

namespace ApiContract.Contract

variable {α β : Type} {q r n : String} {nameOf : α → String}

/-! ### Elements for elements -/

/-- The group with other elements. -/
def Group.map (f : α → β) (g : Group α) : Group β := ⟨g.name, g.request.map f, g.response.map f⟩

lemma role?_map (f : α → β) (gs : List (Group α)) (name : String) :
    role? q r (gs.map (Group.map f)) name = role? q r gs name := by
  have h : hasRequest (gs.map (Group.map f)) = hasRequest gs := by
    funext name
    simp [hasRequest, Group.map, Function.comp_def]
  unfold role?
  rw [h]

lemma map_updateGroup {f : α → β} {k : Group α → Group α} {k' : Group β → Group β}
    (h : ∀ g, (k g).map f = k' (g.map f)) (m : String) (gs : List (Group α)) :
    (updateGroup m k gs).map (Group.map f) = updateGroup m k' (gs.map (Group.map f)) := by
  induction gs with
  | nil => exact congrArg (· :: []) (h _)
  | cons g gs ih =>
    have hname : (g.map f).name = g.name := rfl
    rw [updateGroup, List.map_cons, updateGroup, hname]
    split
    · rw [List.map_cons, h]
    · rw [List.map_cons, ih]

lemma map_assign (f : α → β) (gs : List (Group α)) (a : α) (x : Role) :
    (assign gs a x).map (Group.map f) = assign (gs.map (Group.map f)) (f a) x := by
  rw [assign_eq, assign_eq]
  refine map_updateGroup (fun g => ?_) _ gs
  cases x <;> rfl

/-- **Grouping looks at names only.** -/
theorem group_map (q r : String) (nameOf : β → String) (f : α → β) (es : List α) :
    group q r nameOf (es.map f) = (group q r (nameOf ∘ f) es).map (Group.map f) := by
  induction es using List.reverseRecOn with
  | nil => rfl
  | append_singleton es e ih =>
    rw [List.map_append, List.map_singleton, group_concat, group_concat, addElement, addElement, ih,
      role?_map, Function.comp_apply]
    cases role? q r (group q r (nameOf ∘ f) es) (nameOf (f e)) with
    | none => rfl
    | some x => exact (map_assign f _ e x).symm

/-! ### The holder of a role -/

/-- The element in the role of a group. -/
def Role.holder? (g : Group α) : Role → Option α
  | request _ => g.request
  | response _ => g.response

/-- The element that has the role in groups. -/
def holder? (gs : List (Group α)) (x : Role) : Option α := (groupOf? gs x.operation).bind x.holder?

lemma Role.holder?_fill {x y : Role} (h : y.operation = x.operation) (a : α) (g : Group α) :
    y.holder? (x.fill a g) = if y = x then some a else y.holder? g := by
  cases x <;> cases y
  · simp_all [holder?, fill, operation]
  · simp [holder?, fill]
  · simp [holder?, fill]
  · simp_all [holder?, fill, operation]

/-- **An element takes its role, and all other roles stay.** -/
theorem holder?_assign (gs : List (Group α)) (a : α) (x y : Role) :
    holder? (assign gs a x) y = if y = x then some a else holder? gs y := by
  unfold holder?
  rw [assign_eq, groupOf?_updateGroup (fun g => x.fill_name a g)]
  by_cases h : y.operation = x.operation
  · rw [if_pos h, Option.bind_some, Role.holder?_fill h, h]
    -- a group that is not there yet has no holders
    cases groupOf? gs x.operation with
    | none => cases y <;> rfl
    | some g => rfl
  · have hxy : y ≠ x := fun e => h (congrArg Role.operation e)
    rw [if_neg h, if_neg hxy]

/-- The element has the role in one of the groups. -/
def Fills (gs : List (Group α)) (x : Role) (a : α) : Prop :=
  ∃ g ∈ gs, g.name = x.operation ∧ x.holder? g = some a

lemma fills_iff {gs : List (Group α)} (h : (gs.map Group.name).Nodup) {x : Role} {a : α} :
    Fills gs x a ↔ holder? gs x = some a := by
  unfold Fills holder?
  rw [Option.bind_eq_some_iff]
  simp only [groupOf?_eq_some_iff h, and_assoc]

/-! ### Positions -/

/-- The groups of elements with their positions. -/
def placed (q r : String) (nameOf : α → String) (es : List α) : List (Group (α × ℕ)) :=
  group q r (fun x => nameOf x.1) es.zipIdx

/-- The role that the element at a position is given, after those before it. -/
def roleAt? (q r : String) (nameOf : α → String) (es : List α) (i : ℕ) : Option Role :=
  es[i]?.bind fun e => role? q r (group q r nameOf (es.take i)) (nameOf e)

lemma map_placed (q r : String) (nameOf : α → String) (es : List α) :
    (placed q r nameOf es).map (Group.map Prod.fst) = group q r nameOf es := by
  have h := group_map q r nameOf Prod.fst es.zipIdx
  rw [List.zipIdx_map_fst] at h
  exact h.symm

lemma nodup_names_placed (q r : String) (nameOf : α → String) (es : List α) :
    ((placed q r nameOf es).map Group.name).Nodup :=
  nodup_names_group _ _ _ _

lemma roleAt?_concat (es : List α) (e : α) (i : ℕ) : roleAt? q r nameOf (es ++ [e]) i =
    if i = es.length then role? q r (group q r nameOf es) (nameOf e) else roleAt? q r nameOf es i := by
  unfold roleAt?
  rcases Nat.lt_trichotomy i es.length with h | rfl | h
  · rw [if_neg (Nat.ne_of_lt h), List.getElem?_append_left h,
      List.take_append_of_le_length (Nat.le_of_lt h)]
  · rw [if_pos rfl, List.getElem?_concat_length, List.take_left, Option.bind_some]
  · have hlen : (es ++ [e]).length ≤ i := by
      rw [List.length_append, List.length_singleton]
      exact h
    rw [if_neg (Nat.ne_of_gt h), List.getElem?_eq_none hlen, List.getElem?_eq_none (Nat.le_of_lt h)]
    rfl

/-- **One more element** takes the role that it is given, if any, and all other roles stay. -/
theorem holder?_placed_concat (es : List α) (e : α) (x : Role) :
    holder? (placed q r nameOf (es ++ [e])) x =
      if role? q r (group q r nameOf es) (nameOf e) = some x then some (e, es.length)
      else holder? (placed q r nameOf es) x := by
  have hplaced : placed q r nameOf (es ++ [e]) =
      addElement q r (fun x => nameOf x.1) (placed q r nameOf es) (e, es.length) := by
    unfold placed
    rw [List.zipIdx_append, List.zipIdx_singleton, group_concat, Nat.zero_add]
  rw [hplaced, addElement, ← map_placed q r nameOf es, role?_map]
  cases role? q r (placed q r nameOf es) (nameOf e) with
  | none => rfl
  | some y =>
    simp only [holder?_assign, Option.some.injEq, eq_comm]

/-- A position has no role but the one that it is given. -/
theorem roleAt?_of_holder? {es : List α} {x : Role} {e : α} {i : ℕ}
    (h : holder? (placed q r nameOf es) x = some (e, i)) :
    es[i]? = some e ∧ roleAt? q r nameOf es i = some x := by
  induction es using List.reverseRecOn with
  | nil => cases h
  | append_singleton es a ih =>
    rw [holder?_placed_concat] at h
    split at h
    · rename_i hx
      cases h
      rw [roleAt?_concat, if_pos rfl, List.getElem?_concat_length]
      exact ⟨rfl, hx⟩
    · obtain ⟨he, hrole⟩ := ih h
      have hi : i < es.length := (List.getElem?_eq_some_iff.1 he).1
      rw [roleAt?_concat, if_neg (Nat.ne_of_lt hi), List.getElem?_append_left hi]
      exact ⟨he, hrole⟩

/-- A role that is given at a position is had by the element there or at a later position. -/
theorem exists_holder?_of_roleAt? {es : List α} {x : Role} {i : ℕ}
    (h : roleAt? q r nameOf es i = some x) :
    ∃ e j, i ≤ j ∧ holder? (placed q r nameOf es) x = some (e, j) := by
  induction es using List.reverseRecOn with
  | nil => cases h
  | append_singleton es a ih =>
    rw [roleAt?_concat] at h
    rw [holder?_placed_concat]
    split at h
    · rename_i hi
      exact ⟨a, es.length, Nat.le_of_eq hi, if_pos h⟩
    · obtain ⟨e, j, hij, hj⟩ := ih h
      have hlt : j < es.length := (List.getElem?_eq_some_iff.1 (roleAt?_of_holder? hj).1).1
      split
      · exact ⟨a, es.length, Nat.le_trans hij (Nat.le_of_lt hlt), rfl⟩
      · exact ⟨e, j, hij, hj⟩

/-! ### What grouping keeps -/

/-- **Nothing is lost and nothing is invented** where elements with their positions are grouped. -/
structure IsPlacement (q r : String) (nameOf : α → String) (es : List α)
    (gs : List (Group (α × ℕ))) : Prop where
  nodup_names : (gs.map Group.name).Nodup
  isSome : ∀ g ∈ gs, g.request.isSome ∨ g.response.isSome
  request : ∀ g ∈ gs, ∀ e i, g.request = some (e, i) → es[i]? = some e ∧ nameOf e = g.name ++ q
  response : ∀ g ∈ gs, ∀ e i, g.response = some (e, i) → es[i]? = some e ∧ nameOf e = g.name ++ r
  role_unique : ∀ x y e e' i, Fills gs x (e, i) → Fills gs y (e', i) → x = y
  kept : ∀ e i, es[i]? = some e → (∃ n, nameOf e = n ++ q ∨ nameOf e = n ++ r) →
    ∃ x, roleAt? q r nameOf es i = some x ∧ (Fills gs x (e, i) ∨
      ∃ e' j, i < j ∧ es[j]? = some e' ∧ nameOf e' = nameOf e ∧ Fills gs x (e', j))
  left_out : ∀ e i, es[i]? = some e → (∀ n, nameOf e ≠ n ++ q ∧ nameOf e ≠ n ++ r) →
    ∀ x, ¬ Fills gs x (e, i)

/-- An element that has a role has the name that the role asks for. -/
lemma elementName_of_holder? (hq : q ≠ "") (hr : r ≠ "") {es : List α} {x : Role} {e : α} {i : ℕ}
    (h : holder? (placed q r nameOf es) x = some (e, i)) :
    es[i]? = some e ∧ nameOf e = x.elementName q r := by
  obtain ⟨he, hrole⟩ := roleAt?_of_holder? h
  unfold roleAt? at hrole
  rw [he, Option.bind_some] at hrole
  exact ⟨he, elementName_of_role? hq hr hrole⟩

lemma exists_elementName_iff {name : String} :
    (∃ x : Role, name = x.elementName q r) ↔ ∃ n, name = n ++ q ∨ name = n ++ r := by
  constructor
  · rintro ⟨_ | _, h⟩
    · exact ⟨_, .inl h⟩
    · exact ⟨_, .inr h⟩
  · rintro ⟨n, h | h⟩
    · exact ⟨.request n, h⟩
    · exact ⟨.response n, h⟩

/-- An element whose name has a suffix is given a role. -/
lemma exists_roleAt? (hq : q ≠ "") (hr : r ≠ "") {es : List α} {e : α} {i : ℕ}
    (he : es[i]? = some e) (hname : ∃ x : Role, nameOf e = x.elementName q r) :
    ∃ x, roleAt? q r nameOf es i = some x ∧ nameOf e = x.elementName q r := by
  unfold roleAt?
  rw [he, Option.bind_some]
  cases hx : role? q r (group q r nameOf (es.take i)) (nameOf e) with
  | none =>
    obtain ⟨x, hn⟩ := hname
    exact absurd hn ((role?_eq_none_iff hq hr).1 hx x)
  | some x => exact ⟨x, rfl, elementName_of_role? hq hr hx⟩

/-- **Grouping loses and invents nothing**, whatever the suffixes are, as long as they are not empty. The
groups of elements are the groups of their positions, and there every group has a role that is filled, by an
element whose name is that of the group with the suffix of the role; no position fills two roles; an element
whose name has a suffix fills the role that it is given, or a later one of its name does; and the others
fill none. -/
theorem isPlacement_group (hq : q ≠ "") (hr : r ≠ "") (nameOf : α → String) (es : List α) :
    (placed q r nameOf es).map (Group.map Prod.fst) = group q r nameOf es ∧
      IsPlacement q r nameOf es (placed q r nameOf es) := by
  have hfills : ∀ {x : Role} {p : α × ℕ}, Fills (placed q r nameOf es) x p ↔
      holder? (placed q r nameOf es) x = some p := fills_iff (nodup_names_placed q r nameOf es)
  refine ⟨map_placed q r nameOf es, ⟨nodup_names_placed q r nameOf es, fun g hg => ?_,
    fun g hg e i hi => ?_, fun g hg e i hi => ?_, fun x y e e' i hx hy => ?_,
    fun e i he hname => ?_, fun e i he hname x hx => ?_⟩⟩
  · exact Bool.or_eq_true_iff.1 (isFilled_of_mem_group hg)
  · have h : Fills (placed q r nameOf es) (.request g.name) (e, i) := ⟨g, hg, rfl, hi⟩
    exact elementName_of_holder? hq hr (hfills.1 h)
  · have h : Fills (placed q r nameOf es) (.response g.name) (e, i) := ⟨g, hg, rfl, hi⟩
    exact elementName_of_holder? hq hr (hfills.1 h)
  · have hrx := (roleAt?_of_holder? (hfills.1 hx)).2
    have hry := (roleAt?_of_holder? (hfills.1 hy)).2
    exact Option.some.inj (hrx.symm.trans hry)
  · obtain ⟨x, hrole, hn⟩ := exists_roleAt? hq hr he (exists_elementName_iff.2 hname)
    obtain ⟨e', j, hij, hj⟩ := exists_holder?_of_roleAt? hrole
    obtain ⟨he', hn'⟩ := elementName_of_holder? hq hr hj
    refine ⟨x, hrole, ?_⟩
    rcases Nat.eq_or_lt_of_le hij with rfl | hlt
    · cases he.symm.trans he'
      exact .inl (hfills.2 hj)
    · exact .inr ⟨e', j, hlt, he', hn'.trans hn.symm, hfills.2 hj⟩
  · obtain ⟨-, hn⟩ := elementName_of_holder? hq hr (hfills.1 hx)
    obtain ⟨n, h | h⟩ := exists_elementName_iff.1 ⟨x, hn⟩
    · exact (hname n).1 h
    · exact (hname n).2 h

/-- Three elements whose names end in both suffixes, and one whose name ends in neither. The first one and the
third one have the same name, but there is a request of the name `aR` when the third one comes. -/
theorem isPlacement_group_overlapping :
    let es := ["aReq", "aRReq", "aReq", "b"]
    "Req" ≠ "" ∧ "eq" ≠ "" ∧
      (placed "Req" "eq" id es).map (Group.map Prod.fst) = group "Req" "eq" id es ∧
      IsPlacement "Req" "eq" id es (placed "Req" "eq" id es) ∧
      placed "Req" "eq" id es =
        [⟨"a", some ("aReq", 0), none⟩, ⟨"aR", some ("aRReq", 1), some ("aReq", 2)⟩] := by
  intro es
  have h := isPlacement_group (q := "Req") (r := "eq") (by decide) (by decide) id es
  exact ⟨by decide, by decide, h.1, h.2, by rfl⟩

end ApiContract.Contract
