import ApiContract.Proofs.Schema.RootScope
import ApiContract.Proofs.Xml.Decoding

/-!
The same document from a text and from its bytes. The two readings differ in the blanks that they drop at
the ends: of text all, of bytes those of ASCII. Where these are the same, and the declaration names no
encoding but UTF-8, both give the same document or fail alike (`read_encode_of_ends`). Where they are
not, the bytes are never XML, and the text may be (`read_encode_iff`).
-/

namespace ApiContract.Schema

open ApiContract.Text ApiContract.Xml

variable {source : Option String}

/-! ### Kinds of faults -/

/-- What is wrong with content that cannot be read: its markup, its encoding, or that its root is none of
a schema. -/
inductive FaultKind where
  | markup
  | encoding (f : EncodingFault)
  | root
  deriving Repr, DecidableEq

/-- The kind of a fault. -/
def ReadError.kind : ReadError → FaultKind
  | .xml _ (.encoding f) => .encoding f
  | .xml _ _ => .markup
  | .otherRoot _ _ => .root

lemma kind_xml {f : Failure} (h : ∀ g, f ≠ .encoding g) : (ReadError.xml source f).kind = .markup := by
  cases f with
  | encoding g => exact absurd rfl (h g)
  | _ => rfl

/-! ### Faults of encodings -/

/-- That content cannot be read for its encoding is the fault of bytes whose declaration names it. -/
lemma exists_bytes_of_read {c : Content} {source' : Option String} {g : EncodingFault}
    (h : Document.read c source = .error (.xml source' (.encoding g))) :
    ∃ bs e name, c = .bytes bs ∧ Source.declared? (trim isBlankByte bs) = some (e, name) ∧
      e.goOn name = .error (.fault g) := by
  have hroot : readRoot c source = .error (.xml source' (.encoding g)) := by
    unfold Document.read at h
    cases hr : readRoot c source with
    | error e => rw [hr] at h; cases h; rfl
    | ok root => rw [hr] at h; cases h
  unfold readRoot at hroot
  split at hroot
  · rename_i f hsource
    cases hroot
    cases c with
    | text s => exact absurd hsource (Source.ofText_ne_encoding _ g)
    | bytes bs =>
      obtain ⟨e, name, hd, hg⟩ := Source.declared_of_ofBytes hsource
      exact ⟨bs, e, name, rfl, hd, hg⟩
  · split at hroot
    · rename_i hread
      cases hroot
      exact absurd hread (read_ne_encoding _ g)
    · split at hroot <;> cases hroot

/-! ### Texts and their bytes -/

/-- A text and its bytes are the same document, or fail for the same reason and at the same place, if the
blanks at its ends are those of ASCII and its declaration names no encoding but UTF-8. -/
lemma read_encode_of_ends {s : String} (hends : trim isBlank s.toList = trim isPlainBlank s.toList)
    (hdeclared : Source.KeepsUtf8 (trim isBlankByte (encode s.toList))) :
    Document.read (.bytes (encode s.toList)) source = Document.read (.text s) source := by
  rw [trim_encode, ← hends] at hdeclared
  have hsource : (Content.bytes (encode s.toList)).xmlSource = (Content.text s).xmlSource := by
    rw [Content.xmlSource, Content.xmlSource, trim_encode, ← hends, Source.ofBytes_encode hdeclared]
  have hraw : (Content.bytes (encode s.toList)).rawText = (Content.text s).rawText :=
    decodeLenient_encode s.toList
  have hroot : readRoot (.bytes (encode s.toList)) source = readRoot (.text s) source := by
    rw [readRoot, readRoot, hsource]
  rw [Document.read, Document.read, hroot, hraw]

/-- Bytes with a blank at an end that is none of ASCII are no XML. -/
lemma kind_read_encode_of_ends {s : String} (hends : trim isBlank s.toList ≠ trim isPlainBlank s.toList)
    (hdeclared : Source.KeepsUtf8 (trim isBlankByte (encode s.toList))) :
    (Document.read (.bytes (encode s.toList)) source).mapError ReadError.kind = .error .markup := by
  obtain ⟨c, ds, hc, hcs⟩ := exists_isOddBlank hends
  -- the bytes are read as the text that has kept this blank
  rw [trim_encode] at hdeclared
  have hsource : (Content.bytes (encode s.toList)).xmlSource =
      Source.ofText (trim isPlainBlank s.toList) := by
    rw [Content.xmlSource, trim_encode, Source.ofBytes_encode hdeclared]
  rw [Document.read, readRoot, hsource]
  cases hs : Source.ofText (trim isPlainBlank s.toList) with
  | error f =>
    refine congrArg Except.error (kind_xml fun g hg => ?_)
    rw [hg] at hs
    exact Source.ofText_ne_encoding _ g hs
  | ok src =>
    cases hread : Xml.read src with
    | error f =>
      simp only [hread]
      refine congrArg Except.error (kind_xml fun g hg => ?_)
      rw [hg] at hread
      exact read_ne_encoding src g hread
    | ok root =>
      exact absurd (mapError_eq_ok_iff.1 hread) (readDocument_ne_ok_of_isOddBlank hc hcs hs)

/-- **When a text and its bytes are alike.** If the declaration names no encoding but UTF-8, they give
the same document or a fault of the same kind exactly if the blanks at the ends are those of ASCII,
or the text is no XML either. -/
theorem read_encode_iff (s : String) (source : Option String)
    (hdeclared : Source.KeepsUtf8 (trim isBlankByte (encode s.toList))) :
    (Document.read (.bytes (encode s.toList)) source).mapError ReadError.kind =
        (Document.read (.text s) source).mapError ReadError.kind ↔
      trim isBlank s.toList = trim isPlainBlank s.toList ∨
        ∃ e, Document.read (.text s) source = .error e ∧ e.kind = .markup := by
  by_cases hends : trim isBlank s.toList = trim isPlainBlank s.toList
  · rw [read_encode_of_ends hends hdeclared]
    exact iff_of_true rfl (.inl hends)
  · rw [kind_read_encode_of_ends hends hdeclared, eq_comm, mapError_eq_error_iff,
      or_iff_right hends]

/-- A schema in UTF-8, as its declaration says, with blanks of ASCII around it. -/
def declaredText : String :=
  "\n<?xml version='1.0' encoding='Utf-8'?><xs:schema
xmlns:xs='http://www.w3.org/2001/XMLSchema' xmlns:ü='urn:ü'/>\t"

/-- The schema whose declaration says so is the same from its text and from its bytes. -/
theorem read_encode_iff_declaredText :
    Source.KeepsUtf8 (trim isBlankByte (encode declaredText.toList)) ∧
    Source.declared? (trim isBlankByte (encode declaredText.toList)) = some (.utf8, "Utf-8") ∧
    (Document.read (.bytes (encode declaredText.toList)) none).mapError ReadError.kind =
      (Document.read (.text declaredText) none).mapError ReadError.kind ∧
    ∃ d, Document.read (.text declaredText) none = .ok d := by
  have hfacts : (Source.KeepsUtf8 (trim isBlankByte (encode declaredText.toList)) ∧
      Source.declared? (trim isBlankByte (encode declaredText.toList)) = some (.utf8, "Utf-8") ∧
      trim isBlank declaredText.toList = trim isPlainBlank declaredText.toList) ∧
      isSchema declaredText.toList = true := by
    rw [show declaredText.toList = _ from String.toList_ofList]
    decide +kernel
  obtain ⟨⟨hdeclared, hname, hends⟩, hread⟩ := hfacts
  exact ⟨hdeclared, hname, (read_encode_iff declaredText none hdeclared).2 (.inl hends),
    exists_read_of_isSchema hread⟩

/-- A schema after a blank that is none of ASCII. -/
def oddText : String := "\u00a0<xs:schema xmlns:xs='http://www.w3.org/2001/XMLSchema'/>"

/-- A text that has no declaration is a schema, and its bytes are no XML: the blank before the root is
dropped from the text only. -/
theorem read_encode_of_oddText :
    Source.declared? (encode (trim isBlank oddText.toList)) = none ∧
    (∃ d, Document.read (.text oddText) none = .ok d) ∧
    Document.read (.bytes (encode oddText.toList)) none =
      .error (.xml none (.malformed "not well-formed (invalid token)" ⟨1, 0⟩)) := by
  have hfacts : (Source.declared? (encode (trim isBlank oddText.toList)) = none ∧
      isSchema oddText.toList = true) ∧
      (readRoot (.bytes (encode oddText.toList)) none).map (fun _ => ()) =
        .error (.xml none (.malformed "not well-formed (invalid token)" ⟨1, 0⟩)) := by
    rw [show oddText.toList = _ from String.toList_ofList]
    decide +kernel
  obtain ⟨⟨hdeclared, hread⟩, hbytes⟩ := hfacts
  refine ⟨hdeclared, exists_read_of_isSchema hread, ?_⟩
  rw [Document.read, map_eq_error_iff.1 hbytes]
  rfl

end ApiContract.Schema
