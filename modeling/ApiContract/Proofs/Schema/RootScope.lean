import ApiContract.Proofs.Fields
import ApiContract.Proofs.Schema.Namespaces
import ApiContract.Schema.Reader
import Mathlib.Data.List.Infix

/-!
The two readings of the root of a schema. Its element comes from the tag that the XML reader reads,
and its namespaces come from a search in the raw text. If the tag has a plain form there (`IsPlain`),
the search finds what the tag binds, and the namespaces of the document are the scope of the root
(`scope_eq_of_read`). If it has not, or if there is something like a tag before it, they may be others
(`namespaces_of_commented`).
-/

namespace ApiContract.Schema

open ApiContract.Text ApiContract.Xml ApiContract.Schema.Namespaces

variable {rules : List AttributeRule} {r : RawAttribute} {rs : List RawAttribute}
  {body text m : List Char}

/-! ### The attributes of the tag -/

/-- The declaration that a binding is. -/
def declarationOf (b : Option String × String) : String × String := (b.1.getD "", b.2)

/-- An attribute of plain form. If it binds a label, the label has the form that is looked for and the
value stands for itself; if it binds none, nothing in it begins like a declaration. -/
def IsPlainAttribute (rules : List AttributeRule) (r : RawAttribute) : Prop :=
  match boundLabel? r.name with
  | some l => (∀ x ∈ l, isLabel x.toList = true) ∧ r.IsLiteral rules
  | none => ∀ t, t <:+ r.name.written.toList ++ '=' :: r.value → startsDeclaration t = false

instance (rules : List AttributeRule) (r : RawAttribute) : Decidable (IsPlainAttribute rules r) :=
  match h : boundLabel? r.name with
  | some l =>
    decidable_of_iff ((∀ x ∈ l, isLabel x.toList = true) ∧ r.IsLiteral rules)
      (by rw [IsPlainAttribute, h])
  | none =>
    decidable_of_iff
      (∀ t ∈ (r.name.written.toList ++ '=' :: r.value).tails, startsDeclaration t = false)
      (by simp only [IsPlainAttribute, h, List.mem_tails])

lemma isSep_eq_false_of_isMark {c : Char} (h : isMark c = false) : isSep c = false := by
  simp only [isMark, Bool.or_eq_false_iff] at h
  simp only [isSep, h.1, Bool.false_or, beq_eq_false_iff_ne]
  rintro rfl
  exact absurd h.2 (by decide)

lemma declarations_binding {l : Option String} (hs : r.Spells text) (hb : boundLabel? r.name = some l)
    (hl : ∀ x ∈ l, isLabel x.toList = true) :
    declarations (text ++ m) = declarationOf (l, String.ofList r.value) :: declarations m := by
  obtain ⟨b₁, b₂, q, htext, h₁, h₂, hq, hv⟩ := hs.exists_append m
  rw [htext, boundLabel?_eq_some_iff.1 hb]
  exact declarations_of_declaration? (declaration?_bindingName hl h₁ h₂ hq hv)

lemma declarations_other (hs : r.Spells text)
    (h : ∀ t, t <:+ r.name.written.toList ++ '=' :: r.value → startsDeclaration t = false) :
    declarations (text ++ m) = declarations m := by
  obtain ⟨b₁, b₂, q, htext, h₁, h₂, hq, -⟩ := hs.exists_append m
  have hname : ∀ c ∈ r.name.written.toList, isSep c = false := fun c hc =>
    isSep_eq_false_of_isMark (hs.name.2 c hc)
  have hsep : ∀ c ∈ b₁ ++ '=' :: b₂, isSep c = true := by
    simp only [List.mem_append, List.mem_cons]
    rintro c (hc | rfl | hc)
    · exact isSep_of_isBlank (h₁ c hc)
    · rfl
    · exact isSep_of_isBlank (h₂ c hc)
  have hquote : ∀ x, declarations (q :: x) = declarations x := fun x =>
    declarations_cons_of_none (startsDeclaration_append_quote (p := []) hq rfl)
  have hvalue : ∀ t, t ≠ [] → t <:+ r.value → startsDeclaration (t ++ q :: m) = false :=
    fun t _ ht => startsDeclaration_append_quote hq
      (h t ((ht.trans (List.suffix_cons '=' _)).trans (List.suffix_append _ _)))
  have hsplit : b₁ ++ '=' :: (b₂ ++ q :: (r.value ++ q :: m)) =
      (b₁ ++ '=' :: b₂) ++ q :: (r.value ++ q :: m) := by simp
  rw [htext, declarations_append fun t _ ht => ?_, hsplit, declarations_append_of_isSep hsep, hquote,
    declarations_append hvalue, hquote]
  -- whatever blanks are before the equals sign, the name begins like a declaration or does not
  have ht' : ∀ c ∈ t, isSep c = false := fun c hc => hname c (ht.subset hc)
  rw [startsDeclaration_append_equals ht' h₁,
    ← startsDeclaration_append_equals (b := []) (m := r.value) ht' (by simp)]
  obtain ⟨u, hu⟩ := ht
  exact h _ ⟨u, by rw [← hu]; simp⟩

/-- **The search finds what an attribute of plain form binds**, and passes over one that binds
nothing. -/
lemma declarations_attribute (hs : r.Spells text) (hr : IsPlainAttribute rules r) :
    declarations (text ++ m) = (r.binding?.map declarationOf).toList ++ declarations m := by
  unfold IsPlainAttribute at hr
  cases hb : boundLabel? r.name with
  | some l =>
    rw [hb] at hr
    rw [declarations_binding hs hb hr.1, RawAttribute.binding?, hb]
    rfl
  | none =>
    rw [hb] at hr
    rw [declarations_other hs hr, RawAttribute.binding?, hb]
    rfl

/-- The search finds in a tag what its attributes bind. -/
lemma declarations_body (h : TagBody rs body) (hr : ∀ r ∈ rs, IsPlainAttribute rules r) :
    declarations body = (rs.filterMap RawAttribute.binding?).map declarationOf := by
  have hsep : ∀ {b : List Char}, (∀ c ∈ b, isSpace c = true) → ∀ c ∈ b, isSep c = true :=
    fun hb c hc => isSep_of_isBlank (isBlank_of_isSpace (hb c hc))
  induction h with
  | nil hb hs =>
    rw [declarations_append_of_isSep (hsep hb)]
    rcases hs with rfl | rfl
    · exact declarations_nil
    · rw [declarations_cons_of_none (by decide)]
      exact declarations_nil
  | @cons b text body r rs hne hb hspells h ih =>
    obtain ⟨hr, hrs⟩ := List.forall_mem_cons.1 hr
    rw [declarations_append_of_isSep (hsep hb), declarations_attribute hspells hr, ih hrs]
    cases hb : r.binding? <;> simp [hb]

/-! ### The name of the tag -/

lemma startsDeclaration_append_body {w : List Char} (h : TagBody rs body)
    (hw : ∀ c ∈ w, isSep c = false) : startsDeclaration (w ++ body) = false := by
  have hhead : ∀ {b : List Char}, b ≠ [] → (∀ c ∈ b, isSpace c = true) →
      ∀ m, ∀ c ∈ (b ++ m).head?, isSep c = true := by
    intro b hne hb m
    obtain ⟨c, b, rfl⟩ := List.exists_cons_of_ne_nil hne
    rintro x ⟨⟩
    exact isSep_of_isBlank (isBlank_of_isSpace (hb _ List.mem_cons_self))
  cases h with
  | @nil b slash hb hs =>
    by_cases hne : b = []
    · subst hne
      have hws : ∀ c ∈ w ++ slash, isSep c = false := by
        rw [List.forall_mem_append]
        refine ⟨hw, ?_⟩
        rcases hs with rfl | rfl
        · exact List.forall_mem_nil _
        · exact List.forall_mem_singleton.2 rfl
      have := startsDeclaration_append (m := []) hws (by simp)
      simpa using this
    · rw [startsDeclaration_append hw (hhead hne hb _),
        List.dropWhile_append_of_pos fun c hc => isBlank_of_isSpace (hb c hc)]
      rcases hs with rfl | rfl <;> simp [isBlank, inRanges, blankRanges]
  | @cons b text body r rs hne hb hr h =>
    obtain ⟨⟨hname, hmark⟩, b₁, b₂, q, rfl, -⟩ := hr
    obtain ⟨c, name, hc⟩ := List.exists_cons_of_ne_nil hname
    rw [startsDeclaration_append hw (hhead hne hb _),
      List.dropWhile_append_of_pos fun c hc => isBlank_of_isSpace (hb c hc)]
    have hcm : isMark c = false := hmark c (by rw [hc]; exact List.mem_cons_self)
    have hblank : isBlank c = false := (Bool.or_eq_false_iff.1 hcm).1
    have heq : c ≠ '=' := by rintro rfl; exact absurd hcm (by decide)
    simp [hc, hblank, heq]

/-- The name of a tag ends with it. -/
lemma isWord_of_mem_head? (h : TagBody rs body) :
    ∀ c ∈ (body ++ '>' :: m).head?, Text.isWord c = false := by
  cases h with
  | @nil b slash hb hs =>
    cases b with
    | nil => rcases hs with rfl | rfl <;> rintro c ⟨⟩ <;> decide
    | cons c b =>
      rintro x ⟨⟩
      exact isWord_of_isBlank (isBlank_of_isSpace (hb _ List.mem_cons_self))
  | @cons b text body r rs hne hb hr h =>
    obtain ⟨c, b, rfl⟩ := List.exists_cons_of_ne_nil hne
    rintro x ⟨⟩
    exact isWord_of_isBlank (isBlank_of_isSpace (hb _ List.mem_cons_self))

/-- A tag with the name of a schema is one for the search, if its label has the form that is looked
for. -/
lemma hasTag_append {n : RawName} (hn : n.base = "schema")
    (hl : ∀ l ∈ n.label, isLabel l.toList = true) (h : TagBody rs body) :
    hasTag ('<' :: (n.written.toList ++ (body ++ '>' :: m))) = true := by
  have hname : hasName ("schema".toList ++ (body ++ '>' :: m)) = true := by
    have hend : ((body ++ '>' :: m).head?.map (!Text.isWord ·)).getD true = true := by
      cases hc : (body ++ '>' :: m).head? with
      | none => rfl
      | some c => simp [isWord_of_mem_head? h c hc]
    rw [hasName, dropWord_eq_some_iff.2 rfl]
    simp only [hend, Bool.true_and]
    simp
  obtain ⟨label, base⟩ := n
  simp only at hn hl
  subst hn
  cases label with
  | none =>
    have hwritten : (RawName.mk none "schema").written.toList = "schema".toList := rfl
    rw [hwritten, hasTag, hname, Bool.or_true]
  | some l =>
    have hwritten : (RawName.mk (some l) "schema").written.toList =
        l.toList ++ ':' :: "schema".toList := by simp [RawName.written]
    rw [hwritten, List.append_assoc, List.cons_append, hasTag, dropLabel_append (hl l rfl),
      Option.map_some, Option.getD_some, hname, Bool.true_or]

/-! ### The two readings -/

/-- The scope inside of a root that declares these namespaces. -/
def scopeOf (namespaces : List (String × String)) : Scope :=
  (namespaces.map fun p => (if p.1.isEmpty then none else some p.1, p.2)).reverse ++ .initial

/-- A tag of plain form in a raw text. -/
structure IsPlain (tag : RootTag) (raw : List Char) : Prop where
  /-- The raw text has the tag, and no tag of a schema begins before it. -/
  first : ∃ before text after rest, raw = before ++ (text ++ '>' :: after) ∧
    tag.place = text ++ '>' :: rest ∧ '>' ∉ text ∧
    ∀ t, t ≠ [] → t <:+ before → hasTag (t ++ (text ++ '>' :: after)) = false
  /-- The label of the tag has the form that is looked for. -/
  label : ∀ l ∈ tag.name.label, isLabel l.toList = true
  /-- The first character that can end the tag ends it. -/
  closing : ∀ r ∈ tag.attributes, '>' ∉ r.value
  /-- The attributes are of plain form. -/
  attributes : ∀ r ∈ tag.attributes,
    IsPlainAttribute (tag.declarations.rulesOf tag.name.written) r
  /-- The document type adds no declarations. -/
  implied : ∀ p ∈ defaultAttributes (tag.declarations.rulesOf tag.name.written) tag.attributes,
    boundLabel? p.1 = none

lemma not_mem_body (h : TagBody rs body) (hr : ∀ r ∈ rs, '>' ∉ r.value) : '>' ∉ body := by
  induction h with
  | nil hb hs =>
    rw [List.mem_append, not_or]
    refine ⟨fun hm => absurd (hb _ hm) (by decide), ?_⟩
    rcases hs with rfl | rfl <;> decide
  | @cons b text body r rs hne hb hspells h ih =>
    obtain ⟨hr, hrs⟩ := List.forall_mem_cons.1 hr
    obtain ⟨⟨-, hmark⟩, b₁, b₂, q, rfl, h₁, h₂, hq, -⟩ := hspells
    have hspace : ∀ {b : List Char}, (∀ c ∈ b, isSpace c = true) → '>' ∉ b :=
      fun hb hm => absurd (hb _ hm) (by decide)
    have hname : '>' ∉ r.name.written.toList := fun hm => absurd (hmark _ hm) (by decide)
    have hquote : '>' ≠ q := by rcases hq with rfl | rfl <;> decide
    simp [hspace hb, hspace h₁, hspace h₂, hname, hquote, hr, ih hrs]

/-- The declarations that the search finds in the raw text are the bindings of the tag. -/
lemma ofText_eq {tag : RootTag} {raw rest : List Char} (hp : IsPlain tag raw)
    (hn : tag.name.base = "schema") (hname : IsUnmarked tag.name.written.toList)
    (hbody : TagBody tag.attributes body)
    (hplace : tag.place = '<' :: (tag.name.written.toList ++ (body ++ '>' :: rest))) :
    ofText raw = fieldsOf ((tag.attributes.filterMap RawAttribute.binding?).map declarationOf) := by
  obtain ⟨before, text, after, rest', hraw, hplace', hgt, hfirst⟩ := hp.first
  -- the text up to the first character that can end the tag
  have htag : '>' ∉ '<' :: (tag.name.written.toList ++ body) := by
    have hmem : '>' ∉ tag.name.written.toList := fun hm => absurd (hname.2 _ hm) (by decide)
    simp [hmem, not_mem_body hbody hp.closing]
  have htext : text = '<' :: (tag.name.written.toList ++ body) := by
    have hone : (tag.place).takeWhile (· ≠ '>') = text := by
      rw [hplace', takeWhile_ne_append hgt]
    have hother : (tag.place).takeWhile (· ≠ '>') = '<' :: (tag.name.written.toList ++ body) := by
      rw [hplace, ← List.append_assoc, ← List.cons_append, takeWhile_ne_append htag]
    exact hone.symm.trans hother
  have hfind : findTag? raw = some text := by
    have hschema : hasTag (text ++ '>' :: after) = true := by
      have := hasTag_append (m := after) hn hp.label hbody
      rw [htext]
      simpa using this
    rw [hraw, findTag?_append hfirst, findTag?_of_hasTag hschema, takeWhile_ne_append hgt]
  have hsep : ∀ c ∈ tag.name.written.toList, isSep c = false := fun c hc =>
    isSep_eq_false_of_isMark (hname.2 c hc)
  have hdeclarations : declarations text =
      (tag.attributes.filterMap RawAttribute.binding?).map declarationOf := by
    rw [htext, declarations_cons_of_none, declarations_append fun t _ ht => ?_,
      declarations_body hbody hp.attributes]
    · exact startsDeclaration_append_body hbody fun c hc => hsep c (ht.subset hc)
    · exact startsDeclaration_append_body (w := '<' :: tag.name.written.toList) hbody
        (List.forall_mem_cons.2 ⟨rfl, hsep⟩)
  rw [ofText, hfind]
  simp only [hdeclarations]

lemma isLabel_of_mem_bindings (hr : ∀ r ∈ rs, IsPlainAttribute rules r) {b : Option String × String}
    (hb : b ∈ rs.filterMap RawAttribute.binding?) : ∀ l ∈ b.1, isLabel l.toList = true := by
  obtain ⟨r, hmem, hb⟩ := List.mem_filterMap.1 hb
  obtain ⟨l, hl, rfl⟩ := Option.map_eq_some_iff.1 hb
  have hplain := hr r hmem
  rw [IsPlainAttribute, hl] at hplain
  exact hplain.1

/-- The label of a binding is known from its declaration. -/
lemma label_eq_ite {l : Option String} (h : ∀ x ∈ l, isLabel x.toList = true) :
    (if (l.getD "").isEmpty then none else some (l.getD "")) = l := by
  cases l with
  | none => rfl
  | some x =>
    have hx : x.isEmpty = false := by
      refine Bool.eq_false_iff.2 fun he => ?_
      have hlabel := h x rfl
      rw [String.isEmpty_iff.1 he] at hlabel
      cases hlabel
    simp [hx]

lemma scopeOf_declarations (hr : ∀ r ∈ rs, IsPlainAttribute rules r) :
    scopeOf ((rs.filterMap RawAttribute.binding?).map declarationOf) =
      (rs.filterMap RawAttribute.binding?).reverse ++ Scope.initial := by
  have hback : ∀ b ∈ rs.filterMap RawAttribute.binding?,
      ((if (declarationOf b).1.isEmpty then none else some (declarationOf b).1),
        (declarationOf b).2) = b := fun b hb =>
    Prod.ext (label_eq_ite (isLabel_of_mem_bindings hr hb)) rfl
  rw [scopeOf, List.map_map]
  exact congrArg (·.reverse ++ Scope.initial) ((List.map_congr_left hback).trans (List.map_id _))

lemma nodup_keys_declarations (hn : (rs.map (·.name)).Nodup)
    (hr : ∀ r ∈ rs, IsPlainAttribute rules r) :
    (keys ((rs.filterMap RawAttribute.binding?).map declarationOf)).Nodup := by
  have hlabels : ((rs.filterMap RawAttribute.binding?).map Prod.fst).Nodup := by
    have hmap : (rs.filterMap RawAttribute.binding?).map Prod.fst =
        (rs.map (·.name)).filterMap boundLabel? := by
      rw [List.map_filterMap, List.filterMap_map]
      refine List.filterMap_congr fun r _ => ?_
      cases hb : boundLabel? r.name <;> simp [RawAttribute.binding?, hb]
    rw [hmap]
    refine hn.filterMap fun n n' l hl hl' => ?_
    rw [boundLabel?_eq_some_iff.1 hl, boundLabel?_eq_some_iff.1 hl']
  have hkeys : keys ((rs.filterMap RawAttribute.binding?).map declarationOf) =
      ((rs.filterMap RawAttribute.binding?).map Prod.fst).map (·.getD "") := by
    simp [keys, declarationOf]
  rw [hkeys]
  refine hlabels.map_on fun l hl l' hl' h => ?_
  obtain ⟨b, hb, rfl⟩ := List.mem_map.1 hl
  obtain ⟨b', hb', rfl⟩ := List.mem_map.1 hl'
  rw [← label_eq_ite (isLabel_of_mem_bindings hr hb), h,
    label_eq_ite (isLabel_of_mem_bindings hr hb')]

/-- What is read as a schema is its root, with the namespaces that are in the raw text. -/
lemma read_cases {c : Content} {source : Option String} {d : Document}
    (h : Document.read c source = .ok d) :
    ∃ s n as children, c.xmlSource = .ok s ∧ readDocument s = .ok (.element n as children) ∧
      readRoot c source = .ok (.element n as children) ∧ n = xsd "schema" ∧
      d.namespaces = ofText c.rawText := by
  unfold Document.read at h
  cases hroot : readRoot c source with
  | error e => rw [hroot] at h; cases h
  | ok root =>
    rw [hroot] at h
    cases h
    unfold readRoot at hroot
    split at hroot
    · cases hroot
    · rename_i s hs
      split at hroot
      · cases hroot
      · rename_i root' hread
        split at hroot
        · rename_i hname
          cases hroot
          have hdoc : readDocument s = .ok root := by
            unfold Xml.read at hread
            cases hd : readDocument s with
            | error e => rw [hd] at hread; cases hread
            | ok r => rw [hd] at hread; cases hread; rfl
          cases root with
          | text cs => cases hname
          | element n as children =>
            refine ⟨s, n, as, children, hs, hdoc, rfl, ?_, rfl⟩
            simpa [Node.isNamed, Node.name?] using hname
        · cases hroot

/-- **The namespaces of a document are the scope of its root**, if the start tag of the root has the
plain form in the raw text. -/
theorem scope_eq_of_read {c : Content} {source : Option String} {d : Document}
    (h : Document.read c source = .ok d) :
    ∃ s tag children, c.xmlSource = .ok s ∧ rootTag s = .ok tag ∧
      readRoot c source = .ok (.element tag.element.name tag.element.attributes children) ∧
      (IsPlain tag c.rawText → tag.element.scope = scopeOf d.namespaces) := by
  obtain ⟨s, n, as, children, hs, hdoc, hroot, hname, hspaces⟩ := read_cases h
  obtain ⟨tag, htag, rfl, rfl⟩ := exists_rootTag_of_readDocument hdoc
  refine ⟨s, tag, children, hs, htag, hroot, fun hp => ?_⟩
  obtain ⟨-, ⟨closed, rest, hscan⟩, hopen⟩ := rootTag_eq_ok_iff.1 htag
  obtain ⟨hunmarked, body, hbody, hplace⟩ := exists_tagBody_of_scanLexeme hscan
  have hbase : tag.name.base = "schema" := by
    rw [← base_of_openElement hopen, hname]
    rfl
  have hliteral : ∀ r ∈ tag.attributes, (boundLabel? r.name).isSome →
      r.IsLiteral (tag.declarations.rulesOf tag.name.written) := by
    intro r hr hb
    obtain ⟨l, hl⟩ := Option.isSome_iff_exists.1 hb
    have hplain := hp.attributes r hr
    rw [IsPlainAttribute, hl] at hplain
    exact hplain.2
  rw [hspaces, ofText_eq hp hbase hunmarked hbody hplace,
    fieldsOf_of_nodup (nodup_keys_declarations (nodup_of_openElement hopen) hp.attributes),
    scopeOf_declarations hp.attributes, scope_of_openElement hliteral hp.implied hopen]

/-! ### A tag of plain form, and a tag after another one -/

/-- The start tag of the root of a text. -/
def tagOf (cs : List Char) : Option RootTag :=
  ((Source.ofText (trim isBlank cs)).toOption).bind fun s => (rootTag s).toOption

lemma tagOf_eq {text : String} {s : Source} {tag : RootTag}
    (hs : (Content.text text).xmlSource = .ok s) (ht : rootTag s = .ok tag) :
    tagOf text.toList = some tag := by
  have hs : Source.ofText (trim isBlank text.toList) = .ok s := hs
  rw [tagOf, hs]
  simp only [Except.toOption, Option.bind_some]
  rw [ht]

/-- Whether a text is read as a schema. -/
def isSchema (cs : List Char) : Bool :=
  match (Source.ofText (trim isBlank cs)).toOption.map Xml.read with
  | some (.ok root) => root.isNamed (xsd "schema")
  | _ => false

lemma exists_read_of_isSchema {text : String} (h : isSchema text.toList = true) :
    ∃ d, Document.read (.text text) none = .ok d := by
  unfold isSchema at h
  split at h
  · rename_i root hread
    obtain ⟨s, hs, hroot⟩ := Option.map_eq_some_iff.1 hread
    have hs : (Content.text text).xmlSource = .ok s := by
      cases hsource : Source.ofText (trim isBlank text.toList) with
      | error f => rw [hsource] at hs; cases hs
      | ok s' => rw [hsource] at hs; cases hs; exact hsource
    have hr : readRoot (.text text) none = .ok root := by simp [readRoot, hs, hroot, h]
    exact ⟨_, by rw [Document.read, hr]; rfl⟩
  · cases h

/-- A comment. -/
def plainComment : List Char := "<!-- schema -->".toList

/-- The start tag of a schema with a default namespace, and with `xmlns` in the value of another
attribute. -/
def plainTag : List Char :=
  ("<xs:schema xmlns:xs='http://www.w3.org/2001/XMLSchema' xmlns='urn:a'
targetNamespace='urn:xmlns:b'/").toList

/-- A schema with this tag, after the comment. -/
def plainText : String := String.ofList (plainComment ++ (plainTag ++ ['>']))

/-- A schema after a comment that has a tag in it. -/
def commentedText : String :=
  "<!-- <schema> --><xs:schema xmlns:xs='http://www.w3.org/2001/XMLSchema'/>"

lemma isPlain_plainText {tag : RootTag} (h : tagOf plainText.toList = some tag) :
    IsPlain tag plainText.toList := by
  have hraw : plainText.toList = plainComment ++ (plainTag ++ ['>']) := String.toList_ofList
  have hcheck : (tagOf (plainComment ++ (plainTag ++ ['>']))).all (fun tag =>
      tag.place = plainTag ++ ['>'] ∧ tag.name = ⟨some "xs", "schema"⟩ ∧
      (∀ r ∈ tag.attributes, '>' ∉ r.value) ∧
      (∀ r ∈ tag.attributes, IsPlainAttribute (tag.declarations.rulesOf tag.name.written) r) ∧
      ∀ p ∈ defaultAttributes (tag.declarations.rulesOf tag.name.written) tag.attributes,
        boundLabel? p.1 = none) = true := by
    rw [show plainComment = _ from String.toList_ofList, show plainTag = _ from String.toList_ofList]
    decide +kernel
  have hfirst : '>' ∉ plainTag ∧
      ∀ t ∈ plainComment.tails, t ≠ [] → hasTag (t ++ (plainTag ++ ['>'])) = false := by
    rw [show plainComment = _ from String.toList_ofList, show plainTag = _ from String.toList_ofList]
    decide +kernel
  rw [← hraw, h] at hcheck
  obtain ⟨hplace, hname, hclosing, hattributes, himplied⟩ := of_decide_eq_true hcheck
  exact {
    first := ⟨plainComment, plainTag, [], [], hraw, hplace, hfirst.1,
      fun t hne ht => hfirst.2 t ((List.mem_tails _ _).2 ht) hne⟩
    label := by rw [hname]; rintro l ⟨⟩; decide
    closing := hclosing
    attributes := hattributes
    implied := himplied }

/-- The namespaces of a schema with a tag of plain form are its scope. -/
theorem scope_eq_of_read_plain : ∃ d s tag,
    Document.read (.text plainText) none = .ok d ∧
    (Content.text plainText).xmlSource = .ok s ∧ rootTag s = .ok tag ∧
    IsPlain tag plainText.toList ∧ tag.element.scope = scopeOf d.namespaces ∧
    d.namespaces = [("xs", "http://www.w3.org/2001/XMLSchema"), ("", "urn:a")] := by
  have hraw : plainText.toList = plainComment ++ (plainTag ++ ['>']) := String.toList_ofList
  have hread : isSchema plainText.toList = true ∧ ofText plainText.toList =
      [("xs", "http://www.w3.org/2001/XMLSchema"), ("", "urn:a")] := by
    rw [hraw, show plainComment = _ from String.toList_ofList,
      show plainTag = _ from String.toList_ofList]
    decide +kernel
  obtain ⟨d, hd⟩ := exists_read_of_isSchema hread.1
  obtain ⟨-, -, -, -, -, -, -, -, hspaces⟩ := read_cases hd
  obtain ⟨s, tag, -, hs, ht, -, hscope⟩ := scope_eq_of_read hd
  have hp : IsPlain tag plainText.toList := isPlain_plainText (tagOf_eq hs ht)
  exact ⟨d, s, tag, hd, hs, ht, hp, hscope hp, hspaces.trans hread.2⟩

/-- A schema is read whose root binds a label, and the document has no namespaces: the tag that is
found first is in a comment. -/
theorem namespaces_of_commented : ∃ d s tag,
    Document.read (.text commentedText) none = .ok d ∧
    (Content.text commentedText).xmlSource = .ok s ∧ rootTag s = .ok tag ∧
    tag.element.scope = (some "xs", "http://www.w3.org/2001/XMLSchema") :: Scope.initial ∧
    d.namespaces = [] ∧ tag.element.scope ≠ scopeOf d.namespaces := by
  have hchars : commentedText.toList = _ := String.toList_ofList
  have hread : isSchema commentedText.toList = true ∧ ofText commentedText.toList = [] := by
    rw [hchars]
    decide +kernel
  have htag : (tagOf commentedText.toList).all (fun tag =>
      tag.element.scope = (some "xs", "http://www.w3.org/2001/XMLSchema") :: Scope.initial) =
        true := by
    rw [hchars]
    decide +kernel
  obtain ⟨d, hd⟩ := exists_read_of_isSchema hread.1
  obtain ⟨s, n, as, children, hs, hdoc, -, -, hspaces⟩ := read_cases hd
  obtain ⟨tag, ht, -, -⟩ := exists_rootTag_of_readDocument hdoc
  rw [tagOf_eq hs ht] at htag
  have hscope : tag.element.scope = (some "xs", "http://www.w3.org/2001/XMLSchema") :: Scope.initial :=
    of_decide_eq_true htag
  have hnone : d.namespaces = [] := hspaces.trans hread.2
  refine ⟨d, s, tag, hd, hs, ht, hscope, hnone, ?_⟩
  rw [hscope, hnone]
  decide

end ApiContract.Schema
