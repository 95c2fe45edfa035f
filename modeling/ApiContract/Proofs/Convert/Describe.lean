import ApiContract.Convert
import ApiContract.Proofs.Contract.Operations

/-!
The interface description of a document. It is there if the imports of the document resolve
(`describe_result`). It has one path for each group of elements (`describe_hasPathEach`), and without an
error response it says which elements the document has in pairs (`describe_isPaired`).
-/

namespace ApiContract.Convert

open ApiContract.Contract ApiContract.Files ApiContract.Schema

variable {t : Tree} {d : Schema.Document} {schemaName : String} {rootFile : Option String}
  {o : Options} {imports : Imports}

/-! ### Results of steps -/

/-- The messages on the way do not change which documents are imported. -/
lemma readImports_result (t : Tree) (decls : List Import) (rootFile : Option String)
    (labels : List (String × String)) : (readImports t decls rootFile labels).result =
      (resolveImports t decls rootFile labels).mapError Failure.ofImports := by
  unfold readImports
  cases rootFile.filter (!·.isEmpty) with
  | none => rfl
  | some root =>
    simp only [explain, inform, Logged.result_bind, Logged.result_write]
    by_cases hp : (pendingImports decls root labels).isEmpty
    · simp [hp, bind, Except.bind]
    · cases importContents t (pendingImports decls root labels) <;>
        cases resolveImports t decls rootFile labels <;>
          simp [hp, bind, Except.bind, Except.mapError, pure]

/-- **A document has an interface description if its imports resolve.** -/
theorem describe_result (t : Tree) (d : Schema.Document) (schemaName : String)
    (rootFile : Option String) (o : Options) (errorSchema : Option Value) :
    (describe t d schemaName rootFile o errorSchema).result =
      ((resolveImports t d.imports rootFile d.importLabels).mapError Failure.ofImports).map
        fun imports => document imports d schemaName o errorSchema := by
  unfold describe
  simp only [explain, inform, Logged.result_bind, Logged.result_write, Logged.result_pure,
    readImports_result]
  cases resolveImports t d.imports rootFile d.importLabels <;> rfl

lemma describe_result_of_ok
    (hi : resolveImports t d.imports rootFile d.importLabels = .ok imports)
    (errorSchema : Option Value) : (describe t d schemaName rootFile o errorSchema).result =
      .ok (document imports d schemaName o errorSchema) := by
  rw [describe_result, hi]
  rfl

/-! ### Paths -/

/-- **No operation takes the place of another one.** The imports of a document resolve. Then its interface
description has one path for each group of its elements, whatever the suffixes and the other options
are, and no path and no name of an operation is there twice. -/
theorem describe_hasPathEach (schemaName : String) (o : Options) (errorSchema : Option Value)
    (hi : resolveImports t d.imports rootFile d.importLabels = .ok imports) : ∃ document paths,
      (describe t d schemaName rootFile o errorSchema).result = .ok document ∧
      document.field? "paths" = some (.map paths) ∧
      HasPathEach schemaName o (groups d o) paths :=
  ⟨_, _, describe_result_of_ok hi errorSchema, document_paths _ _ _ _ _,
    hasPathEach_paths _ _ _ _ _⟩

/-- A document with names that end in both of two suffixes, one of which is the end of the other. -/
def nestedDocument : Schema.Document :=
  ⟨none, [], [], [.ofName "as", .ofName "bss", .ofName "ass", .ofName "s", .ofName "c"], [], none⟩

/-- Options with such suffixes, with the name of the schema in paths, and with an error response that has
the status of the other one. -/
def nestedOptions : Options :=
  ⟨"s", "ss", true, .put, "text/json", "string", some ⟨.schema (.map []), none, "200", "no"⟩⟩

/-- The name `ass` is that of the response of `a`, `bss` is that of the request of `bs`, and `s` is that
of the request whose name is empty. -/
theorem describe_hasPathEach_nested : ∃ document paths,
    resolveImports ⟨["w"], []⟩ nestedDocument.imports none nestedDocument.importLabels = .ok [] ∧
    (describe ⟨["w"], []⟩ nestedDocument "n" none nestedOptions (some (.map []))).result =
      .ok document ∧
    document.field? "paths" = some (.map paths) ∧
    HasPathEach "n" nestedOptions (groups nestedDocument nestedOptions) paths ∧
    keys paths = ["/n/a", "/n/bs", "/n/"] ∧ operationIds paths = ["a", "bs", ""] := by
  have hi : resolveImports ⟨["w"], []⟩ nestedDocument.imports none nestedDocument.importLabels =
      .ok [] := rfl
  obtain ⟨document, paths, hd, hp, heach⟩ :=
    describe_hasPathEach "n" nestedOptions (some (.map [])) hi
  have hnames : (groups nestedDocument nestedOptions).map Group.name = ["a", "bs", ""] := by decide
  refine ⟨document, paths, hi, hd, hp, heach, ?_, ?_⟩
  · rw [keys_eq heach.each, ← List.map_map, hnames]
    rfl
  · rw [operationIds_eq heach.each, hnames]

/-! ### Pairs -/

/-- **What the interface description says about the elements.** The imports of a document resolve,
there is no error response, and neither suffix is a suffix of the other. Then the paths are those of
the paired elements, and they are the same if the elements are put into another order that keeps
those of each name as they are. -/
theorem describe_isPaired (schemaName : String)
    (ha : Apart o.requestSuffix o.responseSuffix) (ho : o.error = none)
    (hi : resolveImports t d.imports rootFile d.importLabels = .ok imports)
    (errorSchema : Option Value) : ∃ document paths,
      (describe t d schemaName rootFile o errorSchema).result = .ok document ∧
      document.field? "paths" = some (.map paths) ∧
      IsPaired imports d schemaName o paths ∧
      ∀ es, SameByName d.elements es → ∃ document' paths',
        (describe t { d with elements := es } schemaName rootFile o errorSchema).result =
          .ok document' ∧
        document'.field? "paths" = some (.map paths') ∧ paths.Perm paths' := by
  refine ⟨_, _, describe_result_of_ok hi errorSchema, document_paths _ _ _ _ _,
    isPaired_paths ha ho, fun es hes => ?_⟩
  have hi' : resolveImports t { d with elements := es }.imports rootFile
      { d with elements := es }.importLabels = .ok imports := hi
  exact ⟨_, _, describe_result_of_ok hi' errorSchema, document_paths _ _ _ _ _,
    paths_perm ha ho hes⟩

/-- A document with two requests and a response of `A`, and a response of `B`. The second request may
be left out. -/
def pairedDocument : Schema.Document :=
  ⟨none, [], [], [.ofName "AReq", .ofName "BRes",
    { ElementDecl.ofName "AReq" with minOccurs := some "0" }, .ofName "ARes", .ofName "C"], [], none⟩

/-- Options with the usual suffixes and without an error response. -/
def pairOptions : Options :=
  ⟨"Req", "Res", false, .post, "application/json", "string", none⟩

/-- The same elements the other way round, but for those of one name. -/
def turnedElements : List ElementDecl :=
  [.ofName "C", .ofName "ARes", .ofName "AReq",
    { ElementDecl.ofName "AReq" with minOccurs := some "0" }, .ofName "BRes"]

/-- The request of `A` may be left out, as the last element of its name says, and there are the same
paths the other way round. -/
theorem describe_isPaired_turned : ∃ document paths operation,
    Apart pairOptions.requestSuffix pairOptions.responseSuffix ∧ pairOptions.error = none ∧
    resolveImports ⟨["w"], []⟩ pairedDocument.imports none pairedDocument.importLabels = .ok [] ∧
    (describe ⟨["w"], []⟩ pairedDocument "s" none pairOptions none).result = .ok document ∧
    document.field? "paths" = some (.map paths) ∧
    IsPaired [] pairedDocument "s" pairOptions paths ∧
    paths.lookup "/A" = some (.map [("post", operation)]) ∧
    (operation.field? "requestBody").bind (·.field? "required") = some (.bool false) ∧
    ∃ document' paths',
      (describe ⟨["w"], []⟩ { pairedDocument with elements := turnedElements } "s" none
        pairOptions none).result = .ok document' ∧
      document'.field? "paths" = some (.map paths') ∧ paths.Perm paths' := by
  have ha : Apart pairOptions.requestSuffix pairOptions.responseSuffix := by decide
  have ho : pairOptions.error = none := rfl
  have hi : resolveImports ⟨["w"], []⟩ pairedDocument.imports none pairedDocument.importLabels =
      .ok [] := rfl
  obtain ⟨document, paths, hd, hp, hpair, hperm⟩ :=
    describe_isPaired "s" ha ho hi none
  have hA : "/A" ∈ keys paths := (hpair.mem_keys "A").2
    ⟨.ofName "AReq", List.mem_cons_self, .inl (by decide)⟩
  obtain ⟨⟨k, v⟩, hv, rfl⟩ := List.mem_map.1 hA
  have hlookup := (lookup_eq_some_iff_mem hpair.nodup).2 hv
  obtain ⟨operation, rfl, hbody, -⟩ := hpair.item "A" v hlookup
  have hlast : lastNamed ElementDecl.name ("A" ++ pairOptions.requestSuffix)
      pairedDocument.elements =
        some { ElementDecl.ofName "AReq" with minOccurs := some "0" } := by decide
  refine ⟨document, paths, operation, ha, ho, hi, hd, hp, hpair, hlookup, ?_,
    hperm turnedElements (by decide)⟩
  rw [hbody, hlast]
  simp [Value.field?]

end ApiContract.Convert
