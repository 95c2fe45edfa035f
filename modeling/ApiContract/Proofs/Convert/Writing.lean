import ApiContract.Proofs.Convert.Failure
import ApiContract.Proofs.Files.Tree

/-!
What a run does to the files. Nearly all that can fail comes before the one file is opened, and a run that
fails then leaves every file as it is. Once the file is open, what was in it is gone: a text that has no
bytes leaves the file empty, and a full disk leaves the beginning of the text. A run that comes to an
interface description writes it to the file that is named, as it is rendered, and to no other one
(`run_files`). What a run comes to does not depend on where it is written.
-/

namespace ApiContract.Convert

open ApiContract.Files ApiContract.Text

variable {h : Host} {s : Stack} {t : Tree} {j : Job} {file : String} {document document' : Value} {f : Failure}
  {p : Path} {disk : Option FullDisk} {arrived : List UInt8} {step : Step Value}

/-- What has arrived in the file at a path when writing an interface description to it fails: nothing if it
has no bytes, and what there is room for if the disk is full. -/
inductive Arrives (disk : Option FullDisk) (p : Path) (document : Value) : Failure → List UInt8 → Prop
  | none {ls : List Letter} (hr : render p document = .error .torn) (hl : Json.letters (some 0) document = .ok ls) :
      Arrives disk p document (.unencodable ls) []
  | some {d : FullDisk} {text : String} (hd : disk = some d) (hr : render p document = .ok text) :
      Arrives disk p document (.brokenOff d.message) ((encode text.toList).take d.arrived)

/-- Storing an interface description fails before any file is opened: a file cannot be used, there is no room
for calls, or there is no text, not even one that is torn. -/
inductive IsEarly (s : Stack) (p : Path) (document : Value) : Failure → Prop
  | file (e : FileError) : IsEarly s p document (.file e)
  | exhausted (hfits : s.fits (.rendering (isYaml p) document) = false) : IsEarly s p document .exhausted
  | unwritable {o : Json.Obstacle} (hr : render p document = .error o) : IsEarly s p document (.unwritable o)
  | untold {o : Json.Obstacle} (hr : render p document = .error .torn)
      (hl : Json.letters (some 0) document = .error o) : IsEarly s p document (.unwritable o)

lemma IsEarly.isLate_eq (hf : IsEarly s p document f) : f.isLate = false := by
  cases hf <;> rfl

lemma Arrives.isLate_eq (hf : Arrives disk p document f arrived) : f.isLate = true := by
  cases hf <;> rfl

/-! ### Storing an interface description -/

lemma fill_cases (t : Tree) (p : Path) (arrived : List UInt8) (step : Step Value) :
    (∃ e, fill t p arrived step = ⟨.fail (.file e), t⟩) ∨
      (fill t p arrived step).step = step ∧ t.Writes (fill t p arrived step).tree p arrived := by
  unfold fill
  cases hp : t.target p with
  | error e => exact .inl ⟨e, rfl⟩
  | ok place => exact .inr ⟨rfl, Tree.writes_setFile hp arrived⟩

/-- How storing an interface description ends: it fails early, with all files as they were; it fails late, with
what has arrived in the file; or the file holds the whole text. -/
inductive Ends (h : Host) (t : Tree) (p : Path) (document : Value) (o : Outcome) : Prop
  | early (f : Failure) (hr : o.step.result = .error f) (hf : IsEarly h.stack p document f)
      (ht : t.SameFiles o.tree)
  | late (f : Failure) (arrived : List UInt8) (hr : o.step.result = .error f)
      (hf : Arrives h.disk p document f arrived) (ht : t.Writes o.tree p arrived)
  | whole (text : String) (hr : o.step.result = .ok document) (htext : render p document = .ok text)
      (ht : t.Writes o.tree p (encode text.toList))

lemma Ends.of_fill_error (hr : step.result = .error f) (hf : Arrives h.disk p document f arrived) :
    Ends h t p document (fill t p arrived step) := by
  obtain ⟨e, he⟩ | ⟨hstep, ht⟩ := fill_cases t p arrived step
  · rw [he]
    exact .early _ rfl (.file e) (.refl t)
  · exact .late f arrived (by rw [hstep, hr]) hf ht

lemma Ends.of_fill_ok {text : String} (hr : step.result = .ok document)
    (htext : render p document = .ok text) :
    Ends h t p document (fill t p (encode text.toList) step) := by
  obtain ⟨e, he⟩ | ⟨hstep, ht⟩ := fill_cases t p (encode text.toList) step
  · rw [he]
    exact .early _ rfl (.file e) (.refl t)
  · exact .whole text (by rw [hstep, hr]) htext ht

lemma save_ends (h : Host) (t : Tree) (p : Path) (document : Value) :
    Ends h t p document (save h.disk t p document) := by
  unfold save
  cases hr : render p document with
  | ok text =>
    cases hd : h.disk with
    | none => exact .of_fill_ok rfl hr
    | some d => exact .of_fill_error rfl (.some hd hr)
  | error o =>
    cases o with
    | torn =>
      simp only
      cases hl : Json.letters (some 0) document with
      | ok ls => exact .of_fill_error rfl (.none hr hl)
      | error o => exact .early _ rfl (.untold hr hl) (.refl t)
    | _ => exact .early _ rfl (.unwritable hr) (.refl t)

lemma Ends.of_sameFiles {t' : Tree} {o : Outcome} (ht : t.SameFiles t') (ho : Ends h t' p document o) :
    Ends h t p document o := by
  cases ho with
  | early f hr hf hfiles => exact .early f hr hf (ht.trans hfiles)
  | late f arrived hr hf hw => exact .late f arrived hr hf (ht.writes hw)
  | whole text hr htext hw => exact .whole text hr htext (ht.writes hw)

lemma store_ends (h : Host) (t : Tree) (file : String) (document : Value) :
    Ends h t (Path.ofText file) document (store h t file document) := by
  have hprepare := Tree.sameFiles_prepare t (Path.ofText file)
  unfold store
  simp only
  rcases hp : t.prepare (Path.ofText file) with ⟨t₁, e | _⟩ <;> rw [hp] at hprepare
  · exact .early _ rfl (.file e) hprepare
  · split_ifs with hfits
    · exact (save_ends h t₁ _ document).of_sameFiles hprepare
    · exact .early _ rfl (.exhausted (Bool.eq_false_iff.2 hfits)) hprepare

/-! ### Runs -/

/-- A job that fails before its interface description is made leaves the tree as it is. -/
lemma run_of_convert_error (hc : (convert h.stack t j).result = .error f) :
    run h t j = ⟨convert h.stack t j, t⟩ := by
  unfold run
  simp only [hc]

lemma run_of_no_output (ho : j.output.filter (!·.isEmpty) = none) :
    run h t j = ⟨convert h.stack t j, t⟩ := by
  unfold run
  cases hc : (convert h.stack t j).result <;> simp only [hc, ho]

lemma run_of_output (hc : (convert h.stack t j).result = .ok document)
    (ho : j.output.filter (!·.isEmpty) = some file) :
    (run h t j).step.result = (store h t file document).step.result ∧
      (run h t j).tree = (store h t file document).tree := by
  unfold run
  simp only [hc, ho, and_self]

/-- A run that stores its interface description ends as storing does. -/
lemma run_ends (hc : (convert h.stack t j).result = .ok document)
    (ho : j.output.filter (!·.isEmpty) = some file) :
    Ends h t (Path.ofText file) document (run h t j) := by
  obtain ⟨hresult, htree⟩ := run_of_output hc ho
  cases store_ends h t file document with
  | early f hr hf ht => exact .early f (by rw [hresult, hr]) hf (by rwa [htree])
  | late f arrived hr hf ht => exact .late f arrived (by rw [hresult, hr]) hf (by rwa [htree])
  | whole text hr htext ht => exact .whole text (by rw [hresult, hr]) htext (by rwa [htree])

/-- A run that fails makes no interface description, or it fails to store the one that it makes. -/
lemma failed_cases (hf : (run h t j).step.result = .error f) :
    ((convert h.stack t j).result = .error f ∧ (run h t j).tree = t) ∨
    ∃ document file, (convert h.stack t j).result = .ok document ∧
      j.output.filter (!·.isEmpty) = some file ∧
      (IsEarly h.stack (Path.ofText file) document f ∧ t.SameFiles (run h t j).tree ∨
        ∃ arrived, Arrives h.disk (Path.ofText file) document f arrived ∧
          t.Writes (run h t j).tree (Path.ofText file) arrived) := by
  cases hc : (convert h.stack t j).result with
  | error f' =>
    rw [run_of_convert_error hc] at hf ⊢
    exact .inl ⟨hc.symm.trans hf, rfl⟩
  | ok document =>
    cases ho : j.output.filter (!·.isEmpty) with
    | none =>
      rw [run_of_no_output ho] at hf
      cases hc.symm.trans hf
    | some file =>
      refine .inr ⟨document, file, rfl, rfl, ?_⟩
      cases run_ends hc ho with
      | early f' hr he ht =>
        cases hr.symm.trans hf
        exact .inl ⟨he, ht⟩
      | late f' arrived hr ha ht =>
        cases hr.symm.trans hf
        exact .inr ⟨arrived, ha, ht⟩
      | whole text hr => cases hr.symm.trans hf

/-- A run that comes to an interface description makes it for its job and leaves it in the named file. -/
lemma finished_cases (hr : (run h t j).step.result = .ok document) :
    (convert h.stack t j).result = .ok document ∧
      match j.output.filter (!·.isEmpty) with
      | none => (run h t j).tree = t
      | some file => ∃ text, render (Path.ofText file) document = .ok text ∧
          t.Writes (run h t j).tree (Path.ofText file) (encode text.toList) := by
  cases hc : (convert h.stack t j).result with
  | error f =>
    rw [run_of_convert_error hc] at hr
    cases hc.symm.trans hr
  | ok made =>
    cases ho : j.output.filter (!·.isEmpty) with
    | none =>
      rw [run_of_no_output ho] at hr ⊢
      exact ⟨hc.symm.trans hr, rfl⟩
    | some file =>
      cases run_ends hc ho with
      | early f hr' => cases hr'.symm.trans hr
      | late f arrived hr' => cases hr'.symm.trans hr
      | whole text hr' htext ht =>
        cases hr'.symm.trans hr
        exact ⟨rfl, text, htext, ht⟩

/-- **What a run does to the files.** If it fails before a file is open, all files are as they were before.
If it fails later, the named file is the only one that is new or has changed, and it holds what has arrived of
the interface description: nothing, or the beginning of what is rendered. If the run comes to an interface
description, it comes to the same one wherever this is to be written; where no file is named, the tree
stays as it is, and otherwise the named file is the only one that is new or has changed, and it holds the
interface description as it is rendered for this file. -/
theorem run_files (h : Host) (t : Tree) (j : Job) :
    (∀ f, (run h t j).step.result = .error f →
      if f.isLate then ∃ file document arrived, j.output.filter (!·.isEmpty) = some file ∧
          (convert h.stack t j).result = .ok document ∧
          Arrives h.disk (Path.ofText file) document f arrived ∧
          t.Writes (run h t j).tree (Path.ofText file) arrived
      else t.SameFiles (run h t j).tree) ∧
    ∀ document, (run h t j).step.result = .ok document →
      (∀ output document', (run h t { j with output }).step.result = .ok document' →
        document' = document) ∧
      match j.output.filter (!·.isEmpty) with
      | none => (run h t j).tree = t
      | some file => ∃ text, render (Path.ofText file) document = .ok text ∧
          t.Writes (run h t j).tree (Path.ofText file) (encode text.toList) := by
  constructor
  · intro f hf
    obtain ⟨hc, ht⟩ | ⟨document, file, hc, ho, ⟨he, ht⟩ | ⟨arrived, ha, ht⟩⟩ := failed_cases hf
    · rw [isLate_of_convert hc, ht]
      exact .refl t
    · rw [he.isLate_eq]
      exact ht
    · rw [ha.isLate_eq]
      exact ⟨file, document, arrived, ho, hc, ha, ht⟩
  · intro document hr
    obtain ⟨hc, hfile⟩ := finished_cases hr
    refine ⟨fun output document' hr' => ?_, hfile⟩
    have hc' : (convert h.stack t j).result = .ok document' := (finished_cases hr').1
    exact Except.ok.inj (hc'.symm.trans hc)

/-! ### A text without bytes -/

/-- A job for a schema with a request and for an error response whose schema has a torn text. -/
def tornJob : Job :=
  ⟨.text "<schema xmlns='http://www.w3.org/2001/XMLSchema'><element name='AReq'/></schema>", some "out.json",
    none, ⟨"Req", "Res", false, .post, "application/json", "string",
      some ⟨.schema (.map [("x", .torn ⟨[], ⟨0, by decide⟩, []⟩)]), none, "500", "Internal server error"⟩⟩⟩

/-- A tree with an earlier interface description. -/
def earlierTree : Tree := ⟨["w"], [(["w", "out.json"], .file (encode "old".toList))]⟩

/-- The job fails because its interface description has no bytes, and then nothing is left of the earlier
one. -/
theorem run_tornJob :
    (∃ f, (run .standard earlierTree tornJob).step.result = .error f ∧ f.isLate = true) ∧
    earlierTree.fileAt? ["w", "out.json"] = some (encode "old".toList) ∧
    (run .standard earlierTree tornJob).tree.fileAt? ["w", "out.json"] = some [] ∧
    ¬earlierTree.SameFiles (run .standard earlierTree tornJob).tree := by
  have hresult : ((run .standard earlierTree tornJob).step.result.map fun _ => ()).mapError Failure.isLate =
      .error true := by
    decide +kernel
  have hbefore : earlierTree.fileAt? ["w", "out.json"] = some (encode "old".toList) := rfl
  have hafter : (run .standard earlierTree tornJob).tree.fileAt? ["w", "out.json"] = some [] := by
    decide +kernel
  refine ⟨?_, hbefore, hafter, fun hsame => ?_⟩
  · obtain ⟨f, hf, hlate⟩ := mapError_eq_error_iff.1 hresult
    exact ⟨f, map_eq_error_iff.1 hf, hlate⟩
  · have h := hsame ["w", "out.json"]
    rw [hbefore, hafter] at h
    exact absurd h (by decide)

end ApiContract.Convert
