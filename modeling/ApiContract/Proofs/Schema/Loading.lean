import ApiContract.Proofs.Schema.Imports
import Mathlib.Logic.Relation

/-!
Loading imports at once. The loads of all imports that are followed run side by side and come to their
ends in any order; the first one that fails ends them all, and otherwise the documents are put under their
labels in the order of the imports once all are there. Whatever the order is, that comes to the same as
loading one import after the other (`resolvesImports`).
-/

namespace ApiContract.Schema

open ApiContract.Files ApiContract.Text Relation

variable {t t' : Tree} {decls : List Import} {labels : List (String × String)} {imports : Imports}
  {label root : String} {pending : List PendingImport} {r : Except ImportError Imports}

/-! ### Loads side by side -/

/-- How far the loads are: each of them has a document or none yet, in the order of the imports, or one
of them has failed. -/
inductive Loading where
  | running (slots : List (PendingImport × Option Document))
  | failed (e : ImportError)

namespace Loading

/-- All loads are begun. -/
def start (pending : List PendingImport) : Loading := running (pending.map (·, none))

/-- One of the loads comes to its end. -/
inductive Step (t : Tree) : Loading → Loading → Prop
  | finish {front back : List (PendingImport × Option Document)} {p : PendingImport} {d : Document}
      (h : documentAt t p.path = .ok d) :
      Step t (running (front ++ (p, none) :: back)) (running (front ++ (p, some d) :: back))
  | fail {front back : List (PendingImport × Option Document)} {p : PendingImport}
      {e : ImportError} (h : documentAt t p.path = .error e) :
      Step t (running (front ++ (p, none) :: back)) (failed e)

/-- The document of a load under its label, if it is there. -/
def document? (slot : PendingImport × Option Document) : Option (String × Document) :=
  slot.2.map (slot.1.label, ·)

/-- What the loads come to, if one has failed or all have a document. -/
def result? : Loading → Option (Except ImportError Imports)
  | failed e => some (.error e)
  | running slots => (slots.mapM document?).map fun documents => .ok (fieldsOf documents)

/-- How many loads have not come to an end. -/
def openCount : Loading → Nat
  | running slots => slots.countP (·.2.isNone)
  | failed _ => 0

/-! ### Steps -/

/-- The documents are those of the imports, and a failure is that of one of them. -/
def Agrees (t : Tree) (pending : List PendingImport) : Loading → Prop
  | running slots => slots.map Prod.fst = pending ∧
      ∀ p d, (p, some d) ∈ slots → documentAt t p.path = .ok d
  | failed e => ∃ p ∈ pending, documentAt t p.path = .error e

lemma agrees_start (t : Tree) (pending : List PendingImport) :
    (start pending).Agrees t pending := by
  refine ⟨?_, fun p d hp => ?_⟩
  · rw [List.map_map]
    exact List.map_id _
  · obtain ⟨_, -, h⟩ := List.mem_map.1 hp
    cases h

lemma Agrees.step {l l' : Loading} (h : l.Agrees t pending) (hs : Step t l l') :
    l'.Agrees t pending := by
  cases hs with
  | @finish front back p d hd =>
    obtain ⟨hpending, hslots⟩ := h
    refine ⟨by simpa using hpending, fun p' d' hp => ?_⟩
    rw [List.mem_append, List.mem_cons] at hp
    rcases hp with hp | hp | hp
    · exact hslots p' d' (List.mem_append_left _ hp)
    · cases hp
      exact hd
    · exact hslots p' d' (List.mem_append_right _ (List.mem_cons_of_mem _ hp))
  | @fail front back p e he =>
    have hp : p ∈ pending := by
      rw [← h.1]
      simp
    exact ⟨p, hp, he⟩

/-- What is known of the loads stays true to the end. -/
lemma Agrees.run {l l' : Loading} (h : l.Agrees t pending) (hs : ReflTransGen (Step t) l l') :
    l'.Agrees t pending := by
  induction hs with
  | refl => exact h
  | tail _ hstep ih => exact ih.step hstep

lemma openCount_lt {l l' : Loading} (h : Step t l l') : l'.openCount < l.openCount := by
  cases h with
  | finish h => simp [openCount]
  | fail h =>
    rw [openCount, openCount, List.countP_append, List.countP_cons_of_pos rfl]
    omega

lemma mapM_eq_none {α β : Type} {f : α → Option β} {l : List α} (h : l.mapM f = none) :
    ∃ a ∈ l, f a = none := by
  induction l with
  | nil => cases h
  | cons a l ih =>
    cases ha : f a with
    | none => exact ⟨a, List.mem_cons_self, ha⟩
    | some b =>
      cases hl : l.mapM f with
      | none =>
        obtain ⟨a', ha', hf⟩ := ih hl
        exact ⟨a', List.mem_cons_of_mem _ ha', hf⟩
      | some bs =>
        rw [List.mapM_cons, ha, hl] at h
        cases h

/-- Loads that have come to nothing yet can go on. -/
lemma exists_step {l : Loading} (t : Tree) (h : l.result? = none) : ∃ l', Step t l l' := by
  cases l with
  | failed e => cases h
  | running slots =>
    obtain ⟨⟨p, d⟩, hp, hd⟩ := mapM_eq_none (Option.map_eq_none_iff.1 h)
    cases Option.map_eq_none_iff.1 hd
    obtain ⟨front, back, rfl⟩ := List.append_of_mem hp
    cases hdoc : documentAt t p.path with
    | ok d => exact ⟨_, .finish hdoc⟩
    | error e => exact ⟨_, .fail hdoc⟩

/-- **All loads come to something**, however far they are. -/
theorem exists_result (t : Tree) (l : Loading) :
    ∃ l' r, ReflTransGen (Step t) l l' ∧ l'.result? = some r := by
  induction hn : l.openCount using Nat.strongRecOn generalizing l with
  | _ n ih =>
    cases hr : l.result? with
    | some r => exact ⟨l, r, .refl, hr⟩
    | none =>
      obtain ⟨l₁, hstep⟩ := exists_step t hr
      obtain ⟨l', r, hrun, hr'⟩ := ih _ (hn ▸ openCount_lt hstep) l₁ rfl
      exact ⟨l', r, .head hstep hrun, hr'⟩

/-! ### Results -/

lemma forall₂_of_mapM_slots {slots : List (PendingImport × Option Document)}
    {documents : List (String × Document)}
    (h : slots.mapM document? = some documents)
    (hslots : ∀ p d, (p, some d) ∈ slots → documentAt t p.path = .ok d) :
    List.Forall₂ (fun p q => q.1 = p.label ∧ documentAt t p.path = .ok q.2)
      (slots.map Prod.fst) documents := by
  induction slots generalizing documents with
  | nil =>
    cases h
    exact .nil
  | cons s slots ih =>
    obtain ⟨p, d⟩ := s
    rw [List.mapM_cons] at h
    obtain ⟨q, hq, h⟩ := Option.bind_eq_some_iff.1 h
    obtain ⟨qs, hqs, h⟩ := Option.bind_eq_some_iff.1 h
    cases h
    obtain ⟨d, rfl, rfl⟩ := Option.map_eq_some_iff.1 hq
    refine .cons ⟨rfl, hslots p d List.mem_cons_self⟩ (ih hqs fun p' d' hp => ?_)
    exact hslots p' d' (List.mem_cons_of_mem _ hp)

end Loading

/-! ### Imports that are followed -/

lemma mem_pendingImports {p : PendingImport} : p ∈ pendingImports decls root labels ↔
    ∃ i ∈ decls, i.label? labels = some p.label ∧ p.path = importPath i.location root := by
  unfold pendingImports
  rw [List.mem_filterMap]
  refine exists_congr fun i => and_congr_right fun _ => ?_
  rw [Option.map_eq_some_iff]
  constructor
  · rintro ⟨l, hl, rfl⟩
    exact ⟨hl, rfl⟩
  · rintro ⟨hl, hp⟩
    exact ⟨p.label, hl, by rw [← hp]⟩

lemma map_label_pendingImports (decls : List Import) (root : String)
    (labels : List (String × String)) : (pendingImports decls root labels).map (·.label) =
      decls.filterMap (·.label? labels) := by
  unfold pendingImports
  rw [List.map_filterMap]
  refine List.filterMap_congr fun i _ => ?_
  cases i.label? labels <;> rfl

/-- Imports resolve if each one that is followed has a document. -/
lemma exists_resolveImports_iff (hroot : root ≠ "") :
    (∃ imports, resolveImports t decls (some root) labels = .ok imports) ↔
      ∀ p ∈ pendingImports decls root labels, ∃ d, documentAt t p.path = .ok d := by
  simp only [resolveImports_eq_ok_iff hroot]
  constructor
  · rintro ⟨-, documents, h, -⟩ p hp
    obtain ⟨q, -, -, hq⟩ := exists_of_forall₂_of_mem h hp
    exact ⟨q.2, hq⟩
  · intro h
    generalize pendingImports decls root labels = pending at h
    induction pending with
    | nil => exact ⟨_, [], .nil, rfl⟩
    | cons p pending ih =>
      obtain ⟨hp, hpending⟩ := List.forall_mem_cons.1 h
      obtain ⟨d, hd⟩ := hp
      obtain ⟨-, documents, hdocuments, -⟩ := ih hpending
      exact ⟨_, (p.label, d) :: documents, .cons ⟨rfl, hd⟩ hdocuments, rfl⟩

lemma keys_eq_of_forall₂ {documents : List (String × Document)}
    (h : List.Forall₂ (fun p q => q.1 = p.label ∧ documentAt t p.path = .ok q.2)
      pending documents) : keys documents = pending.map (·.label) := by
  induction h with
  | nil => rfl
  | cons hpq _ ih => rw [keys_cons, List.map_cons, ih, hpq.1]

/-- Only the files of imports that are followed are looked at. -/
lemma resolveImports_congr
    (h : ∀ p ∈ pendingImports decls root labels, t'.file? p.path = t.file? p.path) :
    resolveImports t' decls (some root) labels = resolveImports t decls (some root) labels := by
  have hcontents : ∀ pending : List PendingImport,
      (∀ p ∈ pending, t'.file? p.path = t.file? p.path) →
      importContents t' pending = importContents t pending := by
    intro pending
    induction pending with
    | nil => exact fun _ => rfl
    | cons p pending ih =>
      intro h
      obtain ⟨hp, hpending⟩ := List.forall_mem_cons.1 h
      have := ih hpending
      unfold importContents at this ⊢
      rw [List.mapM_cons, List.mapM_cons, this]
      unfold PendingImport.content
      rw [hp]
  unfold resolveImports
  simp only [hcontents _ h]

/-! ### Whatever the order is -/

/-- There is a file with a schema at a path, and this is its document. -/
def HoldsDocument (t : Tree) (p : Path) (d : Document) : Prop :=
  ∃ bs, t.file? p = .ok (some bs) ∧ Document.read (.bytes bs) (some p.text) = .ok d

lemma HoldsDocument.source {p : Path} {d : Document} (h : HoldsDocument t p d) :
    d.source = some p.text := by
  obtain ⟨bs, -, hd⟩ := h
  obtain ⟨root, -, rfl⟩ := map_eq_ok_iff.1 hd
  rfl

lemma documentAt_eq_ok_iff {p : Path} {d : Document} :
    documentAt t p = .ok d ↔ HoldsDocument t p d := by
  unfold documentAt HoldsDocument
  constructor
  · intro h
    split at h
    · rename_i bs hbs
      exact ⟨bs, hbs, mapError_eq_ok_iff.1 h⟩
    · cases h
    · cases h
  · rintro ⟨bs, hbs, hd⟩
    rw [hbs]
    exact mapError_eq_ok_iff.2 hd

/-- **What resolving imports comes to.** All imports that are followed must have a file with a schema, no
other file is looked at, and the last import with a label has its document there. Loads that run side
by side come to the same, whichever of them ends first. -/
structure ResolvesImports (t : Tree) (decls : List Import) (root : String)
    (labels : List (String × String)) : Prop where
  succeeds_iff : (∃ imports, resolveImports t decls (some root) labels = .ok imports) ↔
    ∀ i ∈ decls, (i.label? labels).isSome → ∃ d, HoldsDocument t (importPath i.location root) d
  keys_eq : ∀ imports, resolveImports t decls (some root) labels = .ok imports →
    keys imports = (decls.filterMap (·.label? labels)).eraseDups
  last_counts : ∀ imports, resolveImports t decls (some root) labels = .ok imports →
    ∀ label ∈ keys imports, ∃ i d, importOf? decls labels label = some i ∧
      HoldsDocument t (importPath i.location root) d ∧ imports.lookup label = some d
  reads_only : ∀ t', (∀ i ∈ decls, (i.label? labels).isSome →
      t'.file? (importPath i.location root) = t.file? (importPath i.location root)) →
    resolveImports t' decls (some root) labels = resolveImports t decls (some root) labels
  any_order : ∀ loading result,
    ReflTransGen (Loading.Step t) (.start (pendingImports decls root labels)) loading →
    loading.result? = some result →
    (∀ imports, resolveImports t decls (some root) labels = .ok imports → result = .ok imports) ∧
    ∀ e, resolveImports t decls (some root) labels = .error e →
      ∃ i ∈ decls, (i.label? labels).isSome ∧
        ∃ e', documentAt t (importPath i.location root) = .error e' ∧ result = .error e'
  some_order : ∃ loading,
    ReflTransGen (Loading.Step t) (.start (pendingImports decls root labels)) loading ∧
    loading.result? = some (resolveImports t decls (some root) labels)
  ends : ∀ loading,
    ReflTransGen (Loading.Step t) (.start (pendingImports decls root labels)) loading →
    ∃ loading' result, ReflTransGen (Loading.Step t) loading loading' ∧
      loading'.result? = some result

/-- Loads that have come to something have come to what one load after the other comes to, but perhaps
for which of the failures is told. -/
lemma Loading.Agrees.result {l : Loading} (hroot : root ≠ "")
    (h : l.Agrees t (pendingImports decls root labels)) (hr : l.result? = some r) :
    resolveImports t decls (some root) labels = r ∨
      ∃ p ∈ pendingImports decls root labels, ∃ e, documentAt t p.path = .error e ∧ r = .error e := by
  cases l with
  | failed e =>
    cases hr
    obtain ⟨p, hp, he⟩ := h
    exact .inr ⟨p, hp, e, he, rfl⟩
  | running slots =>
    obtain ⟨hpending, hslots⟩ := h
    obtain ⟨documents, hdocuments, rfl⟩ := Option.map_eq_some_iff.1 hr
    have hall := forall₂_of_mapM_slots hdocuments hslots
    rw [hpending] at hall
    exact .inl ((resolveImports_eq_ok_iff hroot).2 ⟨documents, hall, rfl⟩)

/-- What one load after the other comes to is what some order comes to. -/
lemma exists_loading (t : Tree) (decls : List Import) (labels : List (String × String))
    (hroot : root ≠ "") : ∃ loading,
      ReflTransGen (Loading.Step t) (.start (pendingImports decls root labels)) loading ∧
      loading.result? = some (resolveImports t decls (some root) labels) := by
  cases hi : resolveImports t decls (some root) labels with
  | ok imports =>
    obtain ⟨loading, r, hrun, hr⟩ :=
      Loading.exists_result t (.start (pendingImports decls root labels))
    rcases ((Loading.agrees_start t _).run hrun).result hroot hr with hsame | ⟨p, hp, e, he, -⟩
    · exact ⟨loading, hrun, by rw [hr, ← hsame, hi]⟩
    · obtain ⟨d, hd⟩ := (exists_resolveImports_iff hroot).1 ⟨imports, hi⟩ p hp
      rw [hd] at he
      cases he
  | error e =>
    -- the import that fails comes to its end first
    obtain ⟨p, hp, he⟩ := exists_documentAt_eq_error hi
    obtain ⟨front, back, hpending⟩ := List.append_of_mem hp
    refine ⟨.failed e, .single ?_, rfl⟩
    rw [hpending, Loading.start, List.map_append, List.map_cons]
    exact .fail he

/-- **Imports resolve all or not at all, and the order of the loads is of no account.** -/
theorem resolvesImports (t : Tree) (decls : List Import) (labels : List (String × String))
    (hroot : root ≠ "") : ResolvesImports t decls root labels where
  succeeds_iff := by
    rw [exists_resolveImports_iff hroot]
    constructor
    · intro h i hi hlabel
      obtain ⟨l, hl⟩ := Option.isSome_iff_exists.1 hlabel
      have hp : ⟨l, importPath i.location root⟩ ∈ pendingImports decls root labels :=
        mem_pendingImports.2 ⟨i, hi, hl, rfl⟩
      obtain ⟨d, hd⟩ := h _ hp
      exact ⟨d, documentAt_eq_ok_iff.1 hd⟩
    · intro h p hp
      obtain ⟨i, hi, hl, hpath⟩ := mem_pendingImports.1 hp
      obtain ⟨d, hd⟩ := h i hi (Option.isSome_of_eq_some hl)
      exact ⟨d, hpath ▸ documentAt_eq_ok_iff.2 hd⟩
  keys_eq := by
    intro imports h
    obtain ⟨documents, hdocuments, rfl⟩ := (resolveImports_eq_ok_iff hroot).1 h
    rw [keys_fieldsOf, keys_eq_of_forall₂ hdocuments, map_label_pendingImports]
  last_counts := by
    intro imports h label hlabel
    cases hi : importOf? decls labels label with
    | none =>
      have hnone := (lookup_resolveImports_eq_none_iff hroot h).2 hi
      obtain ⟨f, hf, rfl⟩ := List.mem_map.1 hlabel
      have := List.lookup_eq_none_iff.1 hnone f hf
      simp at this
    | some i =>
      obtain ⟨d, hd⟩ := exists_documentAt_of_importOf? hroot h hi
      refine ⟨i, d, rfl, documentAt_eq_ok_iff.1 hd, ?_⟩
      rw [lookup_resolveImports hroot h, hi, Option.bind_some, hd]
      rfl
  reads_only := by
    intro t' h
    refine resolveImports_congr fun p hp => ?_
    obtain ⟨i, hi, hl, hpath⟩ := mem_pendingImports.1 hp
    rw [hpath]
    exact h i hi (Option.isSome_of_eq_some hl)
  any_order := by
    intro loading result hrun hr
    rcases ((Loading.agrees_start t _).run hrun).result hroot hr with hsame | ⟨p, hp, e', he, rfl⟩
    · refine ⟨fun imports hi => hsame.symm.trans hi, fun e hi => ?_⟩
      obtain ⟨p, hp, he⟩ := exists_documentAt_eq_error hi
      obtain ⟨i, hmem, hl, hpath⟩ := mem_pendingImports.1 hp
      exact ⟨i, hmem, Option.isSome_of_eq_some hl, e, hpath ▸ he, hsame.symm.trans hi⟩
    · obtain ⟨i, hmem, hl, hpath⟩ := mem_pendingImports.1 hp
      refine ⟨fun imports hi => ?_, fun e hi => ?_⟩
      · obtain ⟨d, hd⟩ := (exists_resolveImports_iff hroot).1 ⟨imports, hi⟩ p hp
        rw [hd] at he
        cases he
      · exact ⟨i, hmem, Option.isSome_of_eq_some hl, e', hpath ▸ he, rfl⟩
  some_order := exists_loading t decls labels hroot
  ends := fun loading _ => Loading.exists_result t loading

/-! ### Two imports with one label -/

/-- A tree with the same schema in two files. -/
def twinTree : Tree :=
  let content := encode "<schema xmlns='http://www.w3.org/2001/XMLSchema'/>".toList
  ⟨["w"], [(["w", "a.xsd"], .file content), (["w", "b.xsd"], .file content)]⟩

/-- Imports of two namespaces, one of them from two files, and of a namespace without a label from a file
that is not there. -/
def twinImports : List Import :=
  [⟨"urn:a", "a"⟩, ⟨"urn:b", "b"⟩, ⟨"urn:c", "c"⟩, ⟨"urn:a", "b.xsd"⟩]

/-- The labels of two namespaces. -/
def twinLabels : List (String × String) := [("urn:b", "q"), ("urn:a", "p")]

/-- The imports of the twin files resolve, and under the label `p` stands the document of the second
file. -/
theorem resolvesImports_twins : "m.xsd" ≠ "" ∧
    ResolvesImports twinTree twinImports "m.xsd" twinLabels ∧
    ∃ imports d, resolveImports twinTree twinImports (some "m.xsd") twinLabels = .ok imports ∧
      keys imports = ["p", "q"] ∧ imports.lookup "p" = some d ∧ d.source = some "b.xsd" := by
  have hroot : "m.xsd" ≠ "" := by decide
  have h := resolvesImports twinTree twinImports twinLabels hroot
  have hfiles : ∀ i ∈ twinImports, (i.label? twinLabels).isSome →
      (documentAt twinTree (importPath i.location "m.xsd")).toOption.isSome := by
    decide +kernel
  obtain ⟨imports, hi⟩ := h.succeeds_iff.2 fun i hi hl => by
    cases hd : documentAt twinTree (importPath i.location "m.xsd") with
    | ok d => exact ⟨d, documentAt_eq_ok_iff.1 hd⟩
    | error e =>
      have := hfiles i hi hl
      rw [hd] at this
      cases this
  have hkeys : keys imports = ["p", "q"] := (h.keys_eq imports hi).trans (by decide)
  have hp : "p" ∈ keys imports := by
    rw [hkeys]
    exact List.mem_cons_self
  obtain ⟨i, d, hlast, hd, hlookup⟩ := h.last_counts imports hi "p" hp
  obtain rfl : ⟨"urn:a", "b.xsd"⟩ = i := Option.some.inj hlast
  exact ⟨hroot, h, imports, d, hi, hkeys, hlookup, hd.source⟩

end ApiContract.Schema
