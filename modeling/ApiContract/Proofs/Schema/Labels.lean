import ApiContract.Proofs.Front
import ApiContract.Schema.Reference
import Mathlib.Data.List.TakeDrop
import Mathlib.Data.List.TakeWhile

/-!
Labels in references. A reference has no colon, or it is a label, a colon and a name
(`exists_label_or_bare`); with a label that is neither the document's own nor stands for XML Schema it
leads to another document, and in no other case (`resolve_eq_foreign_iff`).
-/

namespace ApiContract.Schema

variable {d : Document} {label name space text : String}

/-! ### What labels stand for -/

namespace Document

lemma mem_labelsOf :
    label ∈ d.labelsOf space ↔ (label, space) ∈ d.namespaces ∧ label ≠ "" := by
  simp [labelsOf]

lemma mem_ownLabels : label ∈ d.ownLabels ↔
    label = "tns" ∨ ∃ t, d.targetSpace = some t ∧ t ≠ "" ∧ label ∈ d.labelsOf t := by
  unfold ownLabels
  rw [List.mem_cons]
  refine or_congr_right ?_
  cases d.targetSpace with
  | none => simp
  | some t => by_cases h : t = "" <;> simp [h]

end Document

/-! ### Labels and names -/

lemma span_ne_append {c : Char} {l m : List Char} (h : c ∉ l) :
    (l ++ c :: m).span (· ≠ c) = (l, c :: m) := by
  rw [List.span_eq_takeWhile_dropWhile, takeWhile_ne_append h, dropWhile_ne_append h]

lemma span_ne_of_not_mem {c : Char} {l : List Char} (h : c ∉ l) : l.span (· ≠ c) = (l, []) := by
  have hl : ∀ x ∈ l, decide (x ≠ c) = true := fun x hx => by
    simpa using fun e : x = c => h (e ▸ hx)
  rw [List.span_eq_takeWhile_dropWhile, List.takeWhile_eq_self_iff.2 hl,
    List.dropWhile_eq_nil_iff.2 hl]

/-- A text has no colon, or a label comes before the first one. -/
lemma exists_label_or_bare (text : String) : ':' ∉ text.toList ∨
    ∃ label name : String, ':' ∉ label.toList ∧ text = label ++ ":" ++ name := by
  by_cases h : ':' ∈ text.toList
  · obtain ⟨l, m, hlm, hl⟩ := List.eq_append_cons_of_mem h
    refine .inr ⟨String.ofList l, String.ofList m, by simpa using hl, ?_⟩
    rw [← String.toList_inj, hlm]
    simp
  · exact .inl h

lemma label_append_ne_empty (label name : String) : label ++ ":" ++ name ≠ "" := fun h => by
  simpa using congrArg String.toList h

/-- What is before the first colon and what is from it on. -/
lemma span_label (h : ':' ∉ label.toList) (name : String) :
    (label ++ ":" ++ name).toList.span (· ≠ ':') = (label.toList, ':' :: name.toList) := by
  have ht : (label ++ ":" ++ name).toList = label.toList ++ ':' :: name.toList := by simp
  rw [ht, span_ne_append h]

/-- There is one way only to read a text as a label and a name. -/
lemma label_name_inj {label' name' : String} (h : ':' ∉ label.toList) (h' : ':' ∉ label'.toList)
    (he : label ++ ":" ++ name = label' ++ ":" ++ name') : label = label' ∧ name = name' := by
  have hs := span_label h name
  rw [he, span_label h', Prod.mk.injEq, List.cons.injEq] at hs
  exact ⟨String.toList_inj.1 hs.1.symm, String.toList_inj.1 hs.2.2.symm⟩

namespace TypeRef

lemma ofText_append (h : ':' ∉ label.toList) (name : String) :
    ofText d (label ++ ":" ++ name) = ofLabel d label name := by
  unfold ofText
  rw [span_label h]
  simp

lemma ofText_of_bare (h : ':' ∉ text.toList) : ofText d text = own text := by
  unfold ofText
  rw [span_ne_of_not_mem h]

/-- **Foreign references**: a label and a name, where the label is neither one of the document's own
nor one for XML Schema. -/
theorem resolve_eq_foreign_iff {ref : Option String} :
    resolve d ref = some (foreign label name) ↔
      ref = some (label ++ ":" ++ name) ∧ ':' ∉ label.toList ∧
        label ∉ d.ownLabels ∧ label ∉ reservedLabels ∧ label ∉ d.xsdLabels := by
  have hlabel : ∀ l n, ofLabel d l n = foreign label name ↔ (l = label ∧ n = name) ∧
      l ∉ d.ownLabels ∧ l ∉ reservedLabels ∧ l ∉ d.xsdLabels := by
    intro l n
    simp only [ofLabel, Bool.or_eq_true, List.contains_iff_mem]
    by_cases hown : l ∈ d.ownLabels
    · simp [hown]
    · by_cases hxsd : l ∈ reservedLabels ∨ l ∈ d.xsdLabels
      · rw [if_neg hown, if_pos hxsd]
        simp only [reduceCtorEq, false_iff]
        exact fun h => hxsd.elim h.2.2.1 h.2.2.2
      · rw [if_neg hown, if_neg hxsd, foreign.injEq]
        rw [not_or] at hxsd
        simp [hown, hxsd]
  obtain _ | text := ref
  · simp [resolve]
  by_cases hempty : text = ""
  · have hne := (label_append_ne_empty label name).symm
    simp [resolve, hempty, hne]
  have hresolve : resolve d (some text) = some (ofText d text) := by simp [resolve, hempty]
  rw [hresolve, Option.some.injEq, Option.some.injEq]
  rcases exists_label_or_bare text with h | ⟨l, n, hl, rfl⟩
  · rw [ofText_of_bare h]
    simp only [reduceCtorEq, false_iff]
    rintro ⟨rfl, -⟩
    simp at h
  · rw [ofText_append hl, hlabel]
    constructor
    · rintro ⟨⟨rfl, rfl⟩, hforeign⟩
      exact ⟨rfl, hl, hforeign⟩
    · rintro ⟨he, hl', hforeign⟩
      obtain ⟨rfl, rfl⟩ := label_name_inj hl hl' he
      exact ⟨⟨rfl, rfl⟩, hforeign⟩

end TypeRef

end ApiContract.Schema
