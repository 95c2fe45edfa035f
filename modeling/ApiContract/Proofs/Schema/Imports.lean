import ApiContract.Proofs.Except
import ApiContract.Proofs.Fields
import ApiContract.Schema.Imports
import ApiContract.Schema.Reference
import Mathlib.Data.List.Forall2

/-!
What resolving imports gives. All imports that are followed must have a file with a document
(`resolveImports_eq_ok_iff`), or else one of them fails (`exists_documentAt_eq_error`), and under each
label stands the document of the last import with the label (`lookup_resolveImports`), whose namespace
is the one that the root has the label for (`lookup_namespaces_of_label?`).
-/

namespace ApiContract.Schema

open ApiContract.Files

variable {t : Tree} {decls : List Import} {labels : List (String × String)} {imports : Imports}
  {label root : String}

/-! ### Results one after the other -/

lemma mapM_eq_ok_iff {α β ε : Type} {f : α → Except ε β} {l : List α} {r : List β} :
    l.mapM f = .ok r ↔ List.Forall₂ (fun a b => f a = .ok b) l r := by
  induction l generalizing r with
  | nil =>
    rw [List.mapM_nil, List.forall₂_nil_left_iff]
    exact ⟨fun h => by cases h; rfl, fun h => by rw [h]; rfl⟩
  | cons a l ih =>
    rw [List.mapM_cons, List.forall₂_cons_left_iff]
    constructor
    · intro h
      cases ha : f a with
      | error e => rw [ha] at h; cases h
      | ok b =>
        cases hl : l.mapM f with
        | error e => rw [ha, hl] at h; cases h
        | ok bs =>
          rw [ha, hl] at h
          cases h
          exact ⟨b, bs, rfl, ih.1 hl, rfl⟩
    · rintro ⟨b, bs, ha, hl, rfl⟩
      rw [ha, ih.2 hl]
      rfl

lemma forall₂_comp_iff {α β γ : Type} {R : α → β → Prop} {S : β → γ → Prop} {l : List α}
    {r : List γ} : (∃ m, List.Forall₂ R l m ∧ List.Forall₂ S m r) ↔
      List.Forall₂ (fun a c => ∃ b, R a b ∧ S b c) l r := by
  induction l generalizing r with
  | nil => simp
  | cons a l ih =>
    constructor
    · rintro ⟨_, hR, hS⟩
      obtain ⟨b, m, hab, hl, rfl⟩ := List.forall₂_cons_left_iff.1 hR
      obtain ⟨c, r, hbc, hm, rfl⟩ := List.forall₂_cons_left_iff.1 hS
      exact .cons ⟨b, hab, hbc⟩ (ih.1 ⟨m, hl, hm⟩)
    · intro h
      obtain ⟨c, r, ⟨b, hab, hbc⟩, hr, rfl⟩ := List.forall₂_cons_left_iff.1 h
      obtain ⟨m, hl, hm⟩ := ih.2 hr
      exact ⟨b :: m, .cons hab hl, .cons hbc hm⟩

lemma exists_of_forall₂_of_mem {α β : Type} {R : α → β → Prop} {l : List α} {r : List β} {a : α}
    (h : List.Forall₂ R l r) (ha : a ∈ l) : ∃ b ∈ r, R a b := by
  induction h with
  | nil => cases ha
  | @cons a' b _ _ hab _ ih =>
    rcases List.mem_cons.1 ha with rfl | ha
    · exact ⟨b, List.mem_cons_self, hab⟩
    · obtain ⟨b', hb, hR⟩ := ih ha
      exact ⟨b', List.mem_cons_of_mem _ hb, hR⟩

/-! ### The documents of imports -/

/-- The document that the file at a path holds. -/
def documentAt (t : Tree) (p : Path) : Except ImportError Document :=
  match t.file? p with
  | .ok (some bs) => (Document.read (.bytes bs) (some p.text)).mapError .unreadable
  | .ok none => .error (.missing p.text)
  | .error e => .error (.file e)

lemma content_importedDocument_iff {p : PendingImport} {q : String × Document} :
    (∃ c, (p.content t).map (p, ·) = .ok c ∧ importedDocument c = .ok q) ↔
      q.1 = p.label ∧ documentAt t p.path = .ok q.2 := by
  obtain ⟨l, d⟩ := q
  unfold PendingImport.content documentAt
  cases t.file? p.path with
  | error e => simp [Except.map]
  | ok content =>
    cases content with
    | none => simp [Except.map]
    | some bs =>
      simp only [Except.map, Except.ok.injEq, exists_eq_left', importedDocument]
      cases Document.read (.bytes bs) (some p.path.text) with
      | error e => simp [Except.mapError]
      | ok d' => simp [Except.mapError, eq_comm]

/-- **Imports resolve** if there is a document for each import that is followed, and then these are the
imported documents. -/
theorem resolveImports_eq_ok_iff (hroot : root ≠ "") :
    resolveImports t decls (some root) labels = .ok imports ↔
      ∃ documents, List.Forall₂ (fun p q => q.1 = p.label ∧ documentAt t p.path = .ok q.2)
        (pendingImports decls root labels) documents ∧ imports = fieldsOf documents := by
  have hr : root.isEmpty = false := by simpa using hroot
  simp only [← content_importedDocument_iff, ← forall₂_comp_iff, ← mapM_eq_ok_iff]
  simp only [resolveImports, hr, importContents]
  cases hc : (pendingImports decls root labels).mapM fun p => (p.content t).map (p, ·) with
  | error e => simp [bind, Except.bind]
  | ok contents =>
    cases hd : contents.mapM importedDocument with
    | error e => simp [bind, Except.bind, hd]
    | ok documents => simp [bind, Except.bind, pure, Except.pure, hd, eq_comm]

/-! ### Failures -/

lemma file?_of_mem_importContents {pending : List PendingImport}
    {contents : List (PendingImport × List UInt8)} {p : PendingImport} {bs : List UInt8}
    (h : importContents t pending = .ok contents) (hp : (p, bs) ∈ contents) :
    p ∈ pending ∧ t.file? p.path = .ok (some bs) := by
  obtain ⟨q, hq, hcontent⟩ := exists_of_forall₂_of_mem (mapM_eq_ok_iff.1 h).flip hp
  cases hc : q.content t with
  | error e => rw [hc] at hcontent; cases hcontent
  | ok bs' =>
    rw [hc] at hcontent
    cases hcontent
    refine ⟨hq, ?_⟩
    unfold PendingImport.content at hc
    split at hc
    · rename_i hfile
      cases hc
      exact hfile
    · cases hc
    · cases hc

/-- **A failure to resolve imports** is that of an import that is followed. -/
theorem exists_documentAt_eq_error {e : ImportError}
    (h : resolveImports t decls (some root) labels = .error e) :
    ∃ p ∈ pendingImports decls root labels, documentAt t p.path = .error e := by
  unfold resolveImports at h
  simp only at h
  split at h
  · cases h
  · rcases bind_eq_error_iff.1 h with h | ⟨contents, hcontents, h⟩
    · -- a file is not there
      obtain ⟨p, hp, h⟩ := exists_of_mapM_eq_error h
      have hcontent := map_eq_error_iff.1 h
      refine ⟨p, hp, ?_⟩
      unfold PendingImport.content at hcontent
      unfold documentAt
      cases hfile : t.file? p.path with
      | error e => rw [hfile] at hcontent; cases hcontent; rfl
      | ok content => cases content <;> rw [hfile] at hcontent <;> cases hcontent; rfl
    · -- a file holds no document
      rcases bind_eq_error_iff.1 h with h | ⟨documents, -, h⟩
      · obtain ⟨⟨p, bs⟩, hp, h⟩ := exists_of_mapM_eq_error h
        obtain ⟨hpending, hbs⟩ := file?_of_mem_importContents hcontents hp
        refine ⟨p, hpending, ?_⟩
        unfold importedDocument at h
        simp only [documentAt, hbs]
        split at h
        · cases h
        · rename_i hread
          cases h
          rw [hread]
          rfl
      · cases h

/-! ### The document under a label -/

/-- The last import that is followed with a label. -/
def importOf? (decls : List Import) (labels : List (String × String)) (label : String) :
    Option Import :=
  decls.reverse.find? fun i => i.label? labels == some label

lemma lookup_of_forall₂ {pending : List PendingImport} {documents : List (String × Document)}
    (h : List.Forall₂ (fun p q => q.1 = p.label ∧ documentAt t p.path = .ok q.2)
      pending documents) (label : String) :
    documents.lookup label =
      (pending.find? (·.label == label)).bind fun p => (documentAt t p.path).toOption := by
  induction h with
  | nil => rfl
  | @cons p q _ _ hpq _ ih =>
    obtain ⟨l, d⟩ := q
    obtain ⟨rfl, hd⟩ := hpq
    rw [lookup_pair, List.find?_cons, ih]
    by_cases hl : label = p.label
    · simp [hl, hd, Except.toOption]
    · rw [if_neg hl, beq_false_of_ne (Ne.symm hl)]

lemma find?_pendingImports (decls : List Import) (labels : List (String × String))
    (root label : String) :
    (pendingImports decls root labels).reverse.find? (·.label == label) =
      (importOf? decls labels label).map fun i => ⟨label, importPath i.location root⟩ := by
  unfold pendingImports importOf?
  rw [← List.filterMap_reverse, List.find?_filterMap]
  have hp : ∀ i : Import, ((i.label? labels).map fun l =>
      (⟨l, importPath i.location root⟩ : PendingImport)).any (·.label == label) =
        (i.label? labels == some label) := by
    intro i
    cases i.label? labels <;> simp
  simp only [hp]
  cases h : decls.reverse.find? fun i => i.label? labels == some label with
  | none => rfl
  | some i =>
    have hi : i.label? labels = some label := by simpa using List.find?_some h
    simp [hi]

/-- **The last import with a label counts**: its document stands under the label, and no document does
if no import that is followed has the label. -/
theorem lookup_resolveImports (hroot : root ≠ "")
    (h : resolveImports t decls (some root) labels = .ok imports) (label : String) :
    imports.lookup label = (importOf? decls labels label).bind fun i =>
      (documentAt t (importPath i.location root)).toOption := by
  obtain ⟨documents, hd, rfl⟩ := (resolveImports_eq_ok_iff hroot).1 h
  have hl := lookup_of_forall₂ (List.forall₂_reverse_iff.2 hd) label
  simp only [find?_pendingImports, Option.bind_map, Function.comp_def] at hl
  rw [lookup_fieldsOf, hl]

/-- The last import with a label has a document. -/
lemma exists_documentAt_of_importOf? (hroot : root ≠ "")
    (h : resolveImports t decls (some root) labels = .ok imports) {i : Import}
    (hi : importOf? decls labels label = some i) :
    ∃ d, documentAt t (importPath i.location root) = .ok d := by
  obtain ⟨documents, hd, rfl⟩ := (resolveImports_eq_ok_iff hroot).1 h
  have hp : ⟨label, importPath i.location root⟩ ∈ pendingImports decls root labels := by
    have hf := find?_pendingImports decls labels root label
    rw [hi] at hf
    exact List.mem_reverse.1 (List.mem_of_find?_eq_some hf)
  obtain ⟨q, -, -, hq⟩ := exists_of_forall₂_of_mem hd hp
  exact ⟨q.2, hq⟩

/-- No document stands under a label exactly if no import that is followed has it. -/
theorem lookup_resolveImports_eq_none_iff (hroot : root ≠ "")
    (h : resolveImports t decls (some root) labels = .ok imports) :
    imports.lookup label = none ↔ importOf? decls labels label = none := by
  rw [lookup_resolveImports hroot h]
  cases hi : importOf? decls labels label with
  | none => simp
  | some i =>
    obtain ⟨d, hd⟩ := exists_documentAt_of_importOf? hroot h hi
    simp [hd, Except.toOption]

/-! ### Labels and namespaces -/

/-- Every label of the document stands for one namespace. -/
def Document.IsKeyed (d : Document) : Prop := (keys d.namespaces).Nodup

/-- So it is in every document that is read. -/
theorem Document.isKeyed_of_read {c : Content} {source : Option String} {d : Document}
    (h : Document.read c source = .ok d) : d.IsKeyed := by
  unfold Document.read at h
  cases hr : readRoot c source with
  | error e => rw [hr] at h; cases h
  | ok r =>
    rw [hr] at h
    cases h
    unfold IsKeyed Document.ofRoot Namespaces.ofText
    split
    · exact nodup_keys_fieldsOf _
    · exact List.nodup_nil

/-- An import is followed with a label that the root has for its namespace. -/
theorem lookup_namespaces_of_label? {r : Document} {i : Import} (hr : r.IsKeyed)
    (h : i.label? r.importLabels = some label) : r.namespaces.lookup label = some i.space := by
  have hl : r.importLabels.lookup i.space = some label := (Option.filter_eq_some_iff.1 h).1
  have hm := mem_of_mem_fieldsOf (mem_of_lookup_eq_some hl)
  obtain ⟨⟨l, u⟩, hp, he⟩ := List.mem_map.1 hm
  cases he
  exact (lookup_eq_some_iff_mem hr).2 (List.mem_filter.1 hp).1

end ApiContract.Schema
