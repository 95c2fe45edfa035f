import ApiContract.Proofs.Yaml.Characters
import ApiContract.Proofs.Yaml.Composing
import ApiContract.Proofs.Yaml.Keeping
import ApiContract.Proofs.Yaml.Likeness
import ApiContract.Proofs.Yaml.Remaining

/-!
A map that is written and then read. It is read back just if all texts in it are (`read_text_iff`).
-/

namespace ApiContract

open Files Number

namespace Yaml

variable {f : Identity → Value} {fs : List (String × Value)} {n : Node} {p : ℤ → Bool} {ps : Portions}
  {v w : Value}

lemma isAcceptable_of_mem_text (h : v.linked.isNumbered p = true) (hplain : isPlain v = false) :
    ∀ c ∈ (text v).toList, isAcceptable c = true := by
  intro c hc
  rw [text, hplain, String.toList_ofList, if_neg Bool.false_ne_true, List.append_nil, List.mem_reverse] at hc
  exact (Pen.IsAcceptable.writeNode v.linked h ⟨none, false, false⟩ .start .start).indent 0 c hc

/-- What is read from portions, by the node that their tokens make. -/
lemma read_eq_ok_iff (hknown : known ps = (ps.list.flatten, none)) : read ps = .ok v ↔
    (∃ n, Node.ofTokens (Tokens.ofText ps.list.flatten none) = .ok (some n) ∧ n.meaning = .ok v) ∨
      Node.ofTokens (Tokens.ofText ps.list.flatten none) = .ok none ∧ v = .null := by
  have hnode : Node.ofPortions ps = Node.ofTokens (Tokens.ofText ps.list.flatten none) := by
    simp only [Node.ofPortions, hknown]
  rw [read, hnode, bind_eq_ok_iff]
  constructor
  · rintro ⟨_ | n, hn, hv⟩
    · exact .inr ⟨hn, (Except.ok.inj hv).symm⟩
    · exact .inl ⟨n, hn, hv⟩
  · rintro (⟨n, hn, hv⟩ | ⟨hn, rfl⟩)
    · exact ⟨some n, hn, hv⟩
    · exact ⟨none, hn, rfl⟩

/-- A document whose end is not among its tokens is not read. -/
lemma streamEnd_mem_of_ofTokens {ts : Tokens} (h : Node.ofTokens ts = .ok (some n)) : .streamEnd ∈ ts.list := by
  obtain ⟨⟨_, s⟩, hrun, ⟨⟩⟩ := map_eq_ok_iff.1 h
  exact Compose.streamEnd_mem_of_onlyDocument hrun

/-- **A map is read back just if all texts in it are.** -/
theorem read_text_iff (hne : fs ≠ []) (hjson : (Value.map fs).isJson (fun n => !isLong n) true = true)
    (hfollows : (Value.map fs).Follows f) (hfault : ps.fault = none)
    (hps : ps.list.flatten = (text (.map fs)).toList) :
    (∃ v, read ps = .ok v ∧ v.erased = (Value.map fs).erased) ↔ (Value.map fs).isKept = true := by
  obtain ⟨gs, hgs, hkeys⟩ : ∃ gs, (Value.map fs).linked = .map gs ∧ keys gs = keys fs :=
    ⟨_, rfl, Value.keys_linkFields _ _ _⟩
  have hnegs : gs ≠ [] := by
    rintro rfl
    exact hne (List.map_eq_nil_iff.1 hkeys.symm)
  have hnumbered : (Value.map gs).isNumbered (fun n => !isLong n) = true :=
    hgs ▸ Value.isNumbered_link _ hjson hfollows _ _
  obtain ⟨env, hresolve⟩ := Value.resolve_linked hjson hfollows
  rw [hgs] at hresolve
  have hknown : known ps = (ps.list.flatten, none) :=
    known_eq hfault (hps ▸ isAcceptable_of_mem_text (hgs ▸ hnumbered) rfl)
  have htext : ps.list.flatten =
      ((writeNode ⟨none, false, false⟩ (.map gs) .start).indent 0).written.reverse := by
    rw [hps, text, hgs, String.toList_ofList, if_neg nofun, List.append_nil]
  simp only [read_eq_ok_iff hknown, htext, Value.isKept, hgs]
  obtain ⟨hkept, hend⟩ | ⟨gs', T, hscans, hiff, htokens⟩ :=
    tokens_of_map hnegs (Bool.and_eq_true_iff.1 hnumbered).2
  · -- the scanner does not come to the end of the text
    refine iff_of_false ?_ (by rw [hkept]; exact Bool.false_ne_true)
    rintro ⟨v, ⟨n, hn, -⟩ | ⟨-, rfl⟩, hv⟩
    · exact hend (streamEnd_mem_of_ofTokens hn)
    · cases hv
  · have hscans : Scans false (.map gs) (.map gs') ([.blockMapping] ++ T ++ [.blockEnd]) := .fields hnegs hscans
    obtain ⟨w, env', hw, -, hsame⟩ := tellsApart_of_scans _ hnumbered hscans (fun _ => rfl) hresolve
    have hshort (n : ℤ) (h : (!isLong n) = true) : isLong n = false := (Bool.not_eq_true' _).mp h
    obtain ⟨n, hn, hmeans⟩ := ofTokens_of_scans hshort hnumbered hscans hw
    obtain ⟨v, hv, rfl⟩ := hmeans.meaning
    rw [← hiff, htokens, hn]
    constructor
    · rintro ⟨v', ⟨n', hn', hv'⟩ | ⟨hn', -⟩, herased⟩
      · cases hn'
        rw [hv] at hv'
        cases hv'
        exact Value.map.inj (hsame herased)
      · cases hn'
    · rintro rfl
      rw [hw] at hresolve
      exact ⟨v, .inl ⟨n, rfl, hv⟩, (Prod.mk.inj (Option.some.inj hresolve)).1⟩

end Yaml

end ApiContract
