import ApiContract.Proofs.Except
import ApiContract.Xml.Reader
import Mathlib.Data.List.Nodup

/-!
The bindings that a start tag makes. A binding is read as it is written if nothing in its value stands
for something else (`attributeValue_eq`), no name is written twice (`nodup_of_writtenAttributes`), and
the scope inside of an element is the one outside with the bindings of the tag in front
(`scope_of_openElement`).
-/

namespace ApiContract.Xml

variable {a : Alphabet} {d : Declarations} {rules : List AttributeRule} {start : List Char}
  {seen : List RawName} {s s' : Scope} {rs : List RawAttribute} {more : List (RawName × String)}

/-! ### Values -/

/-- Nothing in the text stands for something else: there are no references, and no blanks but spaces. -/
def IsLiteral (v : List Char) : Prop := ∀ c ∈ v, c ≠ '&' ∧ (isSpace c = true → c = ' ')

instance (v : List Char) : Decidable (IsLiteral v) :=
  List.decidableBAll (fun c => c ≠ '&' ∧ (isSpace c = true → c = ' ')) v

lemma expandValue_of_isLiteral {lenient : Bool} {cs v : List Char} (hl : IsLiteral cs)
    (h : expandValue a lenient cs = .ok v) : v = cs := by
  induction cs generalizing v with
  | nil => rw [expandValue] at h; cases h; rfl
  | cons c cs ih =>
    obtain ⟨⟨hamp, hspace⟩, hcs⟩ := List.forall_mem_cons.1 hl
    have hcr : ¬(c = '\r' ∧ cs.head? = some '\n') := by
      rintro ⟨rfl, -⟩
      exact absurd (hspace rfl) (by decide)
    have hc : (if isSpace c = true then ' ' else c) = c := by
      split
      · exact (hspace ‹_›).symm
      · rfl
    rw [expandValue, if_neg hamp] at h
    by_cases hlt : c = '<'
    · rw [if_pos hlt] at h
      cases h
    · rw [if_neg hlt, if_neg hcr, hc] at h
      cases hv : expandValue a lenient cs with
      | error e => rw [hv] at h; cases h
      | ok w => rw [hv] at h; cases h; rw [ih hcs hv]

/-- The value of the attribute is read as it is written: nothing in it stands for something else, and
no rule makes it a list of names. -/
def RawAttribute.IsLiteral (rules : List AttributeRule) (r : RawAttribute) : Prop :=
  Xml.IsLiteral r.value ∧ ∀ rule ∈ rules, rule.name = r.name → rule.isText = true

instance (rules : List AttributeRule) (r : RawAttribute) : Decidable (r.IsLiteral rules) :=
  inferInstanceAs (Decidable (Xml.IsLiteral r.value ∧
    ∀ rule ∈ rules, rule.name = r.name → rule.isText = true))

theorem attributeValue_eq {r : RawAttribute} {v : String} (hl : r.IsLiteral rules)
    (h : attributeValue a d rules start r = .ok v) : v = String.ofList r.value := by
  have htext : ((rules.find? (·.name == r.name)).map (·.isText)).getD true = true := by
    cases hf : rules.find? (·.name == r.name) with
    | none => rfl
    | some rule =>
      have hname : rule.name = r.name := by simpa using List.find?_some hf
      exact hl.2 rule (List.mem_of_find?_eq_some hf) hname
  unfold attributeValue at h
  split at h
  · cases h
  · rename_i w hw
    rw [htext, expandValue_of_isLiteral hl.1 hw] at h
    cases h
    rfl

/-! ### Bindings -/

/-- The name of the attribute that binds a label. -/
def bindingName : Option String → RawName
  | some l => ⟨some "xmlns", l⟩
  | none => ⟨none, "xmlns"⟩

lemma boundLabel?_eq_some_iff {n : RawName} {l : Option String} :
    boundLabel? n = some l ↔ n = bindingName l := by
  obtain ⟨label, base⟩ := n
  cases l <;> simp only [boundLabel?, bindingName, RawName.mk.injEq] <;> split_ifs <;> simp_all

/-- The bindings that attributes with values make, in their order. -/
def bindings (as : List (RawName × String)) : Scope :=
  as.filterMap fun p => (boundLabel? p.1).map (·, p.2)

/-- The binding that an attribute makes when its value is read as it is written. -/
def RawAttribute.binding? (r : RawAttribute) : Option (Option String × String) :=
  (boundLabel? r.name).map (·, String.ofList r.value)

lemma scope_of_bindAttributes {as : List (RawName × String)}
    (h : bindAttributes start s as = .ok (s', more)) : s' = (bindings as).reverse ++ s := by
  induction as generalizing s more with
  | nil => cases h; rfl
  | cons p as ih =>
    obtain ⟨n, v⟩ := p
    unfold bindAttributes at h
    split at h
    · rename_i l hl
      obtain ⟨t, ht, h⟩ := bind_eq_ok_iff.1 h
      have hcons : t = (l, v) :: s := by
        unfold Scope.bind at ht
        split at ht <;> cases ht
        rfl
      rw [ih h, hcons]
      simp [bindings, hl]
    · rename_i hl
      obtain ⟨⟨t, as'⟩, ht, h⟩ := bind_eq_ok_iff.1 h
      cases h
      rw [ih ht]
      simp [bindings, hl]

/-- **What one written attribute does**: its name is new, it has a value, and the scope gets its
binding. -/
lemma writtenAttributes_cons {r : RawAttribute}
    (h : writtenAttributes a d rules start seen s (r :: rs) = .ok (s', more)) :
    r.name ∉ seen ∧ ∃ v as more', attributeValue a d rules start r = .ok v ∧
      writtenAttributes a d rules start (r.name :: seen) (bindings [(r.name, v)] ++ s) rs =
        .ok (s', more') ∧ more = as ++ more' := by
  unfold writtenAttributes at h
  split at h
  · cases h
  · rename_i hseen
    obtain ⟨v, hv, h⟩ := bind_eq_ok_iff.1 h
    obtain ⟨⟨t, as⟩, ht, h⟩ := bind_eq_ok_iff.1 h
    obtain ⟨⟨t', more'⟩, hmore, h⟩ := bind_eq_ok_iff.1 h
    cases h
    have hone : (bindings [(r.name, v)]).reverse = bindings [(r.name, v)] := by
      cases hb : boundLabel? r.name <;> simp [bindings, hb]
    rw [scope_of_bindAttributes ht, hone] at hmore
    exact ⟨by simpa using hseen, v, as, more', hv, hmore, rfl⟩

lemma nodup_of_writtenAttributes
    (h : writtenAttributes a d rules start seen s rs = .ok (s', more)) :
    (rs.map (·.name)).Nodup ∧ ∀ r ∈ rs, r.name ∉ seen := by
  induction rs generalizing seen s more with
  | nil => simp
  | cons r rs ih =>
    obtain ⟨hr, v, as, more', -, h, -⟩ := writtenAttributes_cons h
    obtain ⟨hnodup, hseen⟩ := ih h
    rw [List.map_cons, List.nodup_cons]
    refine ⟨⟨fun hm => ?_, hnodup⟩, ?_⟩
    · obtain ⟨r', hr', hname⟩ := List.mem_map.1 hm
      exact hseen r' hr' (hname ▸ List.mem_cons_self)
    · rw [List.forall_mem_cons]
      exact ⟨hr, fun r' hr' hm => hseen r' hr' (List.mem_cons_of_mem _ hm)⟩

lemma scope_of_writtenAttributes
    (hl : ∀ r ∈ rs, (boundLabel? r.name).isSome → r.IsLiteral rules)
    (h : writtenAttributes a d rules start seen s rs = .ok (s', more)) :
    s' = (rs.filterMap RawAttribute.binding?).reverse ++ s := by
  induction rs generalizing seen s more with
  | nil => cases h; rfl
  | cons r rs ih =>
    obtain ⟨hr, hrs⟩ := List.forall_mem_cons.1 hl
    obtain ⟨-, v, as, more', hv, h, -⟩ := writtenAttributes_cons h
    rw [ih hrs h]
    cases hb : boundLabel? r.name with
    | none => simp [bindings, RawAttribute.binding?, hb]
    | some l =>
      rw [attributeValue_eq (hr (by simp [hb])) hv]
      simp [bindings, RawAttribute.binding?, hb]

variable {n : RawName} {f : Frame}

/-- The steps of opening an element. -/
lemma openElement_cases (h : openElement a d s start n rs = .ok f) :
    ∃ t written implied,
      writtenAttributes a d (d.rulesOf n.written) start [] s rs = .ok (t, written) ∧
      bindAttributes start t (defaultAttributes (d.rulesOf n.written) rs) =
        .ok (f.scope, implied) ∧
      f.scope.elementName start n = .ok f.name := by
  unfold openElement at h
  obtain ⟨⟨t, written⟩, hw, h⟩ := bind_eq_ok_iff.1 h
  obtain ⟨⟨t', implied⟩, hi, h⟩ := bind_eq_ok_iff.1 h
  obtain ⟨attributes, -, h⟩ := bind_eq_ok_iff.1 h
  obtain ⟨name, hname, h⟩ := bind_eq_ok_iff.1 h
  cases h
  exact ⟨t, written, implied, hw, hi, hname⟩

/-- **The scope inside of an element** is the one outside with the bindings of the tag in front, where
these are read as they are written and no rule makes more of them. -/
theorem scope_of_openElement
    (hl : ∀ r ∈ rs, (boundLabel? r.name).isSome → r.IsLiteral (d.rulesOf n.written))
    (hd : ∀ p ∈ defaultAttributes (d.rulesOf n.written) rs, boundLabel? p.1 = none)
    (h : openElement a d s start n rs = .ok f) :
    f.scope = (rs.filterMap RawAttribute.binding?).reverse ++ s := by
  obtain ⟨t, written, implied, hw, hi, -⟩ := openElement_cases h
  have hnone : bindings (defaultAttributes (d.rulesOf n.written) rs) = [] := by
    rw [bindings, List.filterMap_eq_nil_iff]
    intro p hp
    rw [hd p hp]
    rfl
  rw [scope_of_bindAttributes hi, hnone, scope_of_writtenAttributes hl hw]
  rfl

lemma nodup_of_openElement (h : openElement a d s start n rs = .ok f) :
    (rs.map (·.name)).Nodup := by
  obtain ⟨_, _, _, hw, -, -⟩ := openElement_cases h
  exact (nodup_of_writtenAttributes hw).1

lemma base_of_openElement (h : openElement a d s start n rs = .ok f) : f.name.base = n.base := by
  obtain ⟨_, _, _, -, -, hname⟩ := openElement_cases h
  unfold Scope.elementName at hname
  split at hname
  · rw [← Except.ok.inj hname]
  · cases hname
  · rw [← Except.ok.inj hname]

end ApiContract.Xml
