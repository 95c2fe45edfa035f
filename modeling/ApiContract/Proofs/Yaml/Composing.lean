import ApiContract.Proofs.Yaml.NodeMeaning
import ApiContract.Proofs.Yaml.Scans

/-!
The node of the tokens of a value. Where the tokens are those of a value whose things are told by the numbered
form, they make a node that means the value (`ofTokens_of_scans`).
-/

namespace ApiContract.Yaml

open Number

variable {n : Node} {w : Value}

/-! ### Names -/

lemma ofDigitChars_padded (i m : ℕ) : Nat.ofDigitChars 10 (padded i m).toList 0 = m := by
  have hzeros (k : ℕ) : Nat.ofDigitChars 10 (List.replicate k '0') 0 = 0 := by
    induction k with
    | zero => rfl
    | succ k ih => exact ih
  rw [padded, String.toList_ofList, Nat.ofDigitChars_append, hzeros, Nat.toList_repr]
  exact Nat.ofDigitChars_ten_toDigits

/-- Things with other numbers have other names. -/
lemma nameOf_inj {id id' : Identity} : nameOf id = nameOf id' ↔ id.node = id'.node := by
  refine ⟨fun h => ?_, fun h => by rw [nameOf, nameOf, h]⟩
  have hchars : (padded 3 id.node).toList = (padded 3 id'.node).toList :=
    (List.cons.inj (List.cons.inj (String.ofList_injective h)).2).2
  rw [← ofDigitChars_padded 3 id.node, hchars, ofDigitChars_padded]

/-- The nodes that have names mean what is known of things. -/
def Named (names : List (String × Node)) (env : Value.Known) : Prop :=
  List.Forall₂ (fun a b => (∀ id : Identity, nameOf id = a.1 ↔ id.node = b.1) ∧ ∀ w ∈ b.2, Means a.2 w)
    names env

variable {env env' : Value.Known} {names names' : List (String × Node)} {id : Identity}

lemma Named.cons (h : Named names env) (id : Identity) {o : Option Value} (ho : ∀ w ∈ o, Means n w) :
    Named ((nameOf id, n) :: names) ((id.node, o) :: env) :=
  List.Forall₂.cons ⟨fun _ => nameOf_inj, ho⟩ h

lemma Named.lookup (h : Named names env) (id : Identity) :
    names.lookup (nameOf id) = none ∧ env.lookup id.node = none ∨
      ∃ n o, names.lookup (nameOf id) = some n ∧ env.lookup id.node = some o ∧ ∀ w ∈ o, Means n w := by
  induction h with
  | nil => exact .inl ⟨rfl, rfl⟩
  | cons hab _ ih =>
    rename_i a b names env _
    obtain ⟨hname, hmeans⟩ := hab
    by_cases hid : id.node = b.1
    · refine .inr ⟨a.2, b.2, ?_, ?_, hmeans⟩
      · rw [List.lookup_cons, (hname id).2 hid, beq_self_eq_true]
      · rw [List.lookup_cons, hid, beq_self_eq_true]
    · rw [List.lookup_cons, List.lookup_cons, beq_false_of_ne hid,
        beq_false_of_ne fun h => hid ((hname id).1 h)]
      exact ih

/-! ### Steps -/

/-- Steps take some tokens and come to something, where other tokens follow that may follow. What is known of
things changes with that. -/
def Composes {α : Type} (steps : Compose α) (T : List Token) (env env' : Value.Known) (rel : α → Prop)
    (mayFollow : List Token → Prop) : Prop :=
  ∀ ⦃R fault handles names count⦄, Named names env → mayFollow R → ∃ x names' count',
    steps ⟨T ++ R, fault, handles, names, count⟩ = .ok (x, ⟨R, fault, handles, names', count'⟩) ∧ rel x ∧
      Named names' env'

variable {α β : Type} {steps steps' : Compose α} {T T' T₁ T₂ : List Token} {env₁ env₂ : Value.Known}
  {rel : α → Prop}
  {rel' : β → Prop} {mayFollow mayFollow' : List Token → Prop} {f : α → Compose β}

lemma Compose.bind_apply (x : Compose α) (f : α → Compose β) (s : Composer) :
    (x >>= f) s = x s >>= fun p => f p.1 p.2 := rfl

lemma Composes.pure {x : α} (h : rel x) : Composes (pure x) [] env env rel mayFollow :=
  fun _ _ _ _ _ hnames _ => ⟨x, _, _, rfl, h, hnames⟩

lemma Composes.bind (h : Composes steps T₁ env env₁ rel mayFollow)
    (hf : ∀ x, rel x → Composes (f x) T₂ env₁ env₂ rel' mayFollow')
    (hfollow : ∀ R, mayFollow' R → mayFollow (T₂ ++ R)) :
    Composes (steps >>= f) (T₁ ++ T₂) env env₂ rel' mayFollow' := by
  intro R fault handles names count hnames hR
  obtain ⟨x, names₁, count₁, hx, hrel, hnames₁⟩ := h hnames (hfollow R hR)
  obtain ⟨y, names₂, count₂, hy, hrest⟩ := hf x hrel hnames₁ hR
  refine ⟨y, names₂, count₂, ?_, hrest⟩
  rw [List.append_assoc, Compose.bind_apply, hx]
  exact hy

lemma Composes.map {g : α → β} (h : Composes steps T env env' rel mayFollow) (hg : ∀ x, rel x → rel' (g x)) :
    Composes (do Pure.pure (g (← steps))) T env env' rel' mayFollow := by
  rw [← List.append_nil T]
  exact h.bind (fun x hx => .pure (hg x hx)) fun _ hR => hR

lemma Composes.of_eq (h : Composes steps' T' env env' rel mayFollow)
    (heq : ∀ R fault handles names count,
      steps ⟨T ++ R, fault, handles, names, count⟩ = steps' ⟨T' ++ R, fault, handles, names, count⟩) :
    Composes steps T env env' rel mayFollow := by
  intro R fault handles names count hnames hR
  rw [heq]
  exact h hnames hR

/-! ### Collections -/

/-- The names with a further one, if there is one. -/
def addName (o : Option Identity) (n : Node) (names : List (String × Node)) : List (String × Node) :=
  match o with
  | none => names
  | some id => (nameOf id, n) :: names

/-- What is known with something about a further thing, if there is one. -/
def addKnown (o : Option Identity) (w : Option Value) (env : Value.Known) : Value.Known :=
  match o with
  | none => env
  | some id => (id.node, w) :: env

/-- The token in front of a thing. -/
def nameTokens (o : Option Identity) : List Token := (o.map fun id => .anchor (nameOf id)).toList

lemma Named.add (h : Named names env) (o : Option Identity) {u : Option Value} (hu : ∀ w ∈ u, Means n w) :
    Named (addName o n names) (addKnown o u env) := by
  cases o with
  | none => exact h
  | some id => exact h.cons id hu

namespace Compose

variable {o : Option Identity} {t : Token} {ts : List Token} {fault : Option Fault}
  {handles : List (String × String)}
  {count k : ℕ} {block flush : Bool}

lemma bind_of_new (hnames : Named names env) (hnew : ∀ id ∈ o, env.lookup id.node = none) (n : Node) :
    bind (o.map nameOf) n ⟨ts, fault, handles, names, count⟩ =
      .ok ((), ⟨ts, fault, handles, addName o n names, count⟩) := by
  cases o with
  | none => rfl
  | some id =>
    have hlookup : names.lookup (nameOf id) = none := by
      obtain ⟨h, -⟩ | ⟨_, _, -, h, -⟩ := hnames.lookup id
      · exact h
      · rw [hnew id rfl] at h
        cases h
    change (do
      if (names.lookup (nameOf id)).isSome then throw Fault.name
      modify fun s => { s with names := (nameOf id, n) :: s.names } : Compose Unit) _ = _
    rw [hlookup]
    rfl

lemma rebind_apply (o : Option Identity) (n : Node) (s : Composer) :
    rebind (o.map nameOf) n s = .ok (n, { s with names := addName o n s.names }) := by
  cases o <;> rfl

/-- How the items of a sequence are read that begins with a token. -/
inductive ItemsStart (block flush : Bool) (k : ℕ) : Token → Compose (List Node) → Prop where
  | flush (h : flush = true) : ItemsStart block flush k .entry (flushItems k)
  | block (h : block = true) : ItemsStart block flush k .blockSequence (do drop; blockItems k)
  | flow : ItemsStart block flush k .openSequence (do drop; flowItems true k)

/-- How the entries of a mapping are read that begins with a token. -/
inductive EntriesStart (block : Bool) (k : ℕ) : Token → Compose (List (Node × Node)) → Prop where
  | block (h : block = true) : EntriesStart block k .blockMapping (do drop; blockEntries k)
  | flow : EntriesStart block k .openMapping (do drop; flowEntries true k)

/-- A collection with a name, if there is one. -/
def collect {α : Type} (o : Option Identity) (isList : Bool) (make : ℕ → α → Node) (steps : Compose α) :
    Compose Node := do
  let i ← number
  bind (o.map nameOf) (.again i isList)
  rebind (o.map nameOf) (make i (← steps))

lemma node_sequence {items : Compose (List Node)} (h : ItemsStart block flush k t items) :
    node block flush (k + 1) ⟨nameTokens o ++ t :: ts, fault, handles, names, count⟩ =
      collect o true (fun i => .sequence i (coreTag "seq")) items ⟨t :: ts, fault, handles, names, count⟩ := by
  rw [node]
  cases h with
  | flush h => subst h; cases o <;> rfl
  | block h => subst h; cases o <;> rfl
  | flow => cases o <;> rfl

lemma node_mapping {entries : Compose (List (Node × Node))} (h : EntriesStart block k t entries) :
    node block flush (k + 1) ⟨nameTokens o ++ t :: ts, fault, handles, names, count⟩ =
      collect o false (fun i => .mapping i (coreTag "map")) entries
        ⟨t :: ts, fault, handles, names, count⟩ := by
  rw [node]
  cases h with
  | block h => subst h; cases o <;> rfl
  | flow => cases o <;> rfl

lemma composes_collect {o : Option Identity} {isList : Bool} {make : ℕ → α → Node}
    (h : Composes steps T (addKnown o none env) env' rel mayFollow) (hnew : ∀ id ∈ o, env.lookup id.node = none)
    (hmake : ∀ i x, rel x → Means (make i x) w) :
    Composes (collect o isList make steps) T env (addKnown o (some w) env') (Means · w) mayFollow := by
  intro R fault handles names count hnames hR
  have hentered : Named (addName o (.again (count + 1) isList) names) (addKnown o none env) :=
    hnames.add o nofun
  obtain ⟨x, names', count', hx, hrel, hnames'⟩ := h hentered hR
  have hmeans := hmake (count + 1) x hrel
  refine ⟨make (count + 1) x, addName o (make (count + 1) x) names', count', ?_, hmeans, hnames'.add o ?_⟩
  · change (bind (o.map nameOf) (.again (count + 1) isList) >>= fun _ => steps >>= fun x =>
      rebind (o.map nameOf) (make (count + 1) x)) ⟨T ++ R, fault, handles, names, count + 1⟩ = _
    rw [bind_apply, bind_of_new hnames hnew]
    change (steps >>= fun x => rebind (o.map nameOf) (make (count + 1) x)) _ = _
    rw [bind_apply, hx]
    exact rebind_apply o _ _
  · rintro _ ⟨⟩
    exact hmeans

/-- A scalar is a node. -/
lemma composes_scalar {s : String} {plain : Bool} :
    Composes (node block flush (k + 1)) [.scalar s plain] env env
    (fun n => ∃ i, n = if plain then .ofPlain i s else .scalar i (coreTag "str") s) mayFollow := by
  intro R fault handles names count hnames _
  refine ⟨_, names, count + 1, ?_, ⟨count + 1, rfl⟩, hnames⟩
  rw [node]
  rfl

/-- A name stands for what it is known to name. -/
lemma composes_alias {id : Identity} (h : env.lookup id.node = some (some w)) :
    Composes (node block flush (k + 1)) [.alias (nameOf id)] env env (Means · w) mayFollow := by
  intro R fault handles names count hnames _
  obtain ⟨-, hnone⟩ | ⟨n, u, hn, hu, hmeans⟩ := hnames.lookup id
  · rw [h] at hnone
    cases hnone
  · rw [h] at hu
    cases hu
    refine ⟨n, names, count, ?_, hmeans w rfl, hnames⟩
    have hpeek : peek ⟨.alias (nameOf id) :: R, fault, handles, names, count⟩ =
        pure (.alias (nameOf id), ⟨.alias (nameOf id) :: R, fault, handles, names, count⟩) := rfl
    have hdrop : drop ⟨.alias (nameOf id) :: R, fault, handles, names, count⟩ =
        pure ((), ⟨R, fault, handles, names, count⟩) := rfl
    have hget (s : Composer) : (get : Compose Composer) s = pure (s, s) := rfl
    simp only [node, List.singleton_append, bind_apply, hpeek, hdrop, hget, pure_bind, hn]
    rfl

end Compose

/-! ### Values -/

variable {block flush m : Bool} {k : ℕ} {v v' : Value} {vs vs' : List Value} {fs fs' : List (String × Value)}

/-- After a list without an indent of its own something else than an item follows. -/
def EndsFlush (m : Bool) (R : List Token) : Prop := m = true → ∃ t R', R = t :: R' ∧ t ≠ .entry

/-- Whether a token may be the first one of a value. -/
def beginsNode : Token → Bool
  | .scalar _ _ | .openSequence | .openMapping | .blockSequence | .blockMapping | .entry
  | .anchor _ | .alias _ => true
  | _ => false

/-- The first token of a value. -/
lemma Scans.head (h : Scans m v v' T) :
    ∃ t ts, T = t :: ts ∧ beginsNode t = true ∧ (t = .entry → m = true) := by
  cases h with
  | word | noItems | noFields | again => exact ⟨_, _, rfl, rfl, nofun⟩
  | text h => cases h <;> exact ⟨_, _, rfl, rfl, nofun⟩
  | items | fields | shared => exact ⟨_, _, rfl, rfl, nofun⟩
  | flush hne h =>
    cases h with
    | nil => exact absurd rfl hne
    | cons => exact ⟨_, _, rfl, rfl, fun _ => rfl⟩

lemma Scans.list (h : Scans m (.list vs) v' T) : ∃ vs', v' = .list vs' := by
  cases h <;> exact ⟨_, rfl⟩

lemma Scans.map (h : Scans m (.map fs) v' T) : ∃ fs', v' = .map fs' := by
  cases h <;> exact ⟨_, rfl⟩

/-- The items of a list, with an indent of its own or without. -/
def itemsOf (flush : Bool) (k : ℕ) : Compose (List Node) :=
  if flush then Compose.flushItems k else Compose.blockItems k

/-- What ends the items of a list. -/
def itemsEnd (flush : Bool) : List Token := if flush then [] else [.blockEnd]

lemma composes_noItems :
    Composes (itemsOf flush (k + 1)) (itemsEnd flush) env env (List.Forall₂ Means · []) (EndsFlush flush) := by
  intro R fault handles names count hnames hR
  refine ⟨[], names, count, ?_, .nil, hnames⟩
  cases flush with
  | false =>
    change Compose.blockItems (k + 1) _ = _
    rw [Compose.blockItems]
    rfl
  | true =>
    obtain ⟨t, R', rfl, ht⟩ := hR rfl
    change Compose.flushItems (k + 1) _ = _
    rw [Compose.flushItems]
    cases t <;> first | exact absurd rfl ht | rfl

lemma composes_item {ws : List Value} (hhead : Scans false v v' T₁)
    (hv : Composes (Compose.node true false k) T₁ env env₁ (Means · w) (EndsFlush false))
    (hvs : Composes (itemsOf flush k) T₂ env₁ env₂ (List.Forall₂ Means · ws) mayFollow) :
    Composes (itemsOf flush (k + 1)) ([.entry] ++ (T₁ ++ T₂)) env env₂
      (List.Forall₂ Means · (w :: ws)) mayFollow := by
  have hcons (n : Node) (hn : Means n w) : Composes (do pure (n :: (← itemsOf flush k))) T₂ env₁ env₂
      (List.Forall₂ Means · (w :: ws)) mayFollow := hvs.map fun ns hns => List.Forall₂.cons hn hns
  refine (hv.bind hcons fun _ _ => nofun).of_eq fun R fault handles names count => ?_
  obtain ⟨t, ts, rfl, ht, hentry⟩ := hhead.head
  cases flush with
  | false =>
    change Compose.blockItems (k + 1) _ = _
    rw [Compose.blockItems]
    cases t <;> first | exact absurd (hentry rfl) nofun | rfl | cases ht
  | true =>
    change Compose.flushItems (k + 1) _ = _
    rw [Compose.flushItems]
    cases t <;> first | exact absurd (hentry rfl) nofun | rfl | cases ht

lemma composes_noEntries :
    Composes (Compose.blockEntries (k + 1)) [.blockEnd] env env (List.Forall₂ EntryMeans · [])
    mayFollow := by
  intro R fault handles names count hnames _
  refine ⟨[], names, count, ?_, .nil, hnames⟩
  rw [Compose.blockEntries]
  rfl

/-- A text is a node. -/
lemma composes_text {s : String} {token : Token} (h : IsText s token) :
    Composes (Compose.node block flush (k + 1)) [token] env env
      (fun n => ∃ i, n = .scalar i (coreTag "str") s) mayFollow := by
  cases h with
  | plain h =>
    intro R fault handles names count hnames hR
    obtain ⟨n, names', count', hn, ⟨i, hi⟩, hnames'⟩ := Compose.composes_scalar hnames hR
    exact ⟨n, names', count', hn, ⟨i, by rw [hi, if_pos rfl, Node.ofPlain, h]; rfl⟩, hnames'⟩
  | quoted => exact Compose.composes_scalar

/-- The value of an entry, and what follows it. -/
def entryValue (k : ℕ) (key : Node) : Compose (List (Node × Node)) := do
  let value ← if ← Compose.accept .value then
      if ← Compose.isNext [.key, .value, .blockEnd] then pure .empty else Compose.node true true k
    else pure .empty
  pure ((key, value) :: (← Compose.blockEntries k))

lemma composes_entry {s : String} {token : Token} {gs : List (String × Value)} (htoken : IsText s token)
    (hhead : Scans true v v' T₁)
    (hv : Composes (Compose.node true true (k + 1)) T₁ env env₁ (Means · w) (EndsFlush true))
    (hfs : Composes (Compose.blockEntries (k + 1)) T₂ env₁ env₂ (List.Forall₂ EntryMeans · gs) mayFollow)
    (hfollow : ∃ t ts, T₂ = t :: ts ∧ t ≠ .entry) :
    Composes (Compose.blockEntries (k + 2)) ([.key, token, .value] ++ (T₁ ++ T₂)) env env₂
      (List.Forall₂ EntryMeans · ((s, w) :: gs)) mayFollow := by
  obtain ⟨t, ts, rfl, ht, -⟩ := hhead.head
  have hvalue (key : Node) (hkey : ∃ i, key = .scalar i (coreTag "str") s) : Composes (entryValue (k + 1) key)
      ([.value] ++ (t :: ts ++ T₂)) env env₂ (List.Forall₂ EntryMeans · ((s, w) :: gs)) mayFollow := by
    have hcons (n : Node) (hn : Means n w) :
        Composes (do pure ((key, n) :: (← Compose.blockEntries (k + 1)))) T₂ env₁ env₂
          (List.Forall₂ EntryMeans · ((s, w) :: gs)) mayFollow :=
      hfs.map fun es hes => List.Forall₂.cons ⟨hkey, hn⟩ hes
    have hends (R : List Token) : mayFollow R → EndsFlush true (T₂ ++ R) := by
      obtain ⟨t', ts', rfl, ht'⟩ := hfollow
      exact fun _ _ => ⟨t', ts' ++ R, rfl, ht'⟩
    refine (hv.bind hcons hends).of_eq fun R fault handles names count => ?_
    cases t <;> first | rfl | cases ht
  have hkey : Composes (Compose.node true true (k + 1)) [token] env env
      (fun n => ∃ i, n = .scalar i (coreTag "str") s) fun _ => True := composes_text htoken
  refine (hkey.bind hvalue fun _ _ => trivial).of_eq fun R fault handles names count => ?_
  rw [Compose.blockEntries]
  cases htoken <;> rfl

variable {ws : List Value} {gs : List (String × Value)}

/-- A list is a node, with a name or without. -/
lemma composes_list (o : Option Identity) (h : Scans m (.list vs) (.list vs') T)
    (hresolve : Value.resolveAll (addKnown o none env) vs' = some (ws, env'))
    (hnew : ∀ id ∈ o, env.lookup id.node = none) (hk : 2 * T.length + 2 ≤ k)
    (hitems : ∀ ⦃flush T k⦄, ScansItems vs vs' T → 2 * T.length + 1 ≤ k →
      Composes (itemsOf flush k) (T ++ itemsEnd flush) (addKnown o none env) env' (List.Forall₂ Means · ws)
        (EndsFlush flush)) :
    Composes (Compose.node true m k) (nameTokens o ++ T) env (addKnown o (some (.list ws)) env')
      (Means · (.list ws))
      (EndsFlush m) := by
  obtain ⟨k, rfl⟩ : ∃ k', k = k' + 1 := ⟨k - 1, by omega⟩
  have hnode {t : Token} {ts : List Token} {items : Compose (List Node)}
      (hstart : Compose.ItemsStart true m k t items)
      (h : Composes items (t :: ts) (addKnown o none env) env' (List.Forall₂ Means · ws) (EndsFlush m)) :
      Composes (Compose.node true m (k + 1)) (nameTokens o ++ t :: ts) env (addKnown o (some (.list ws)) env')
        (Means · (.list ws)) (EndsFlush m) :=
    (Compose.composes_collect h hnew fun _ _ => Means.list).of_eq fun R fault handles names count => by
      rw [List.append_assoc]
      exact Compose.node_sequence hstart
  cases h with
  | word h => cases h
  | noItems =>
    cases hresolve
    refine hnode .flow fun R fault handles names count hnames _ => ⟨[], names, count, ?_, .nil, hnames⟩
    obtain ⟨k, rfl⟩ : ∃ k', k = k' + 1 := ⟨k - 1, by simp at hk; omega⟩
    change Compose.flowItems true (k + 1) ⟨[.closeSequence] ++ R, fault, handles, names, count⟩ = _
    rw [Compose.flowItems]
    rfl
  | items hne h =>
    simp only [List.length_append, List.length_singleton] at hk
    exact hnode (.block rfl) fun _ _ _ _ _ hnames _ => @hitems false _ _ h (by omega) _ _ _ _ _ hnames nofun
  | flush hne h =>
    have hsteps := @hitems true T k h (by omega)
    rw [itemsEnd, if_pos rfl, List.append_nil] at hsteps
    cases h with
    | nil => exact absurd rfl hne
    | cons => exact hnode (.flush rfl) hsteps

/-- A map is a node, with a name or without. -/
lemma composes_map (o : Option Identity) (h : Scans m (.map fs) (.map fs') T)
    (hresolve : Value.resolveFields (addKnown o none env) fs' = some (gs, env'))
    (hnew : ∀ id ∈ o, env.lookup id.node = none) (hk : 2 * T.length + 2 ≤ k)
    (hentries : ∀ ⦃T k⦄, ScansFields fs fs' T → 2 * T.length + 1 ≤ k →
      Composes (Compose.blockEntries k) (T ++ [.blockEnd]) (addKnown o none env) env'
        (List.Forall₂ EntryMeans · gs)
        fun _ => True) :
    Composes (Compose.node true m k) (nameTokens o ++ T) env (addKnown o (some (.map (fieldsOf gs))) env')
      (Means · (.map (fieldsOf gs))) (EndsFlush m) := by
  obtain ⟨k, rfl⟩ : ∃ k', k = k' + 1 := ⟨k - 1, by omega⟩
  have hnode {t : Token} {ts : List Token} {entries : Compose (List (Node × Node))}
      (hstart : Compose.EntriesStart true k t entries)
      (h : Composes entries (t :: ts) (addKnown o none env) env' (List.Forall₂ EntryMeans · gs) (EndsFlush m)) :
      Composes (Compose.node true m (k + 1)) (nameTokens o ++ t :: ts) env
        (addKnown o (some (.map (fieldsOf gs))) env')
        (Means · (.map (fieldsOf gs))) (EndsFlush m) :=
    (Compose.composes_collect h hnew fun _ _ => Means.map).of_eq fun R fault handles names count => by
      rw [List.append_assoc]
      exact Compose.node_mapping hstart
  cases h with
  | word h => cases h
  | noFields =>
    cases hresolve
    refine hnode .flow fun R fault handles names count hnames _ => ⟨[], names, count, ?_, .nil, hnames⟩
    obtain ⟨k, rfl⟩ : ∃ k', k = k' + 1 := ⟨k - 1, by simp at hk; omega⟩
    change Compose.flowEntries true (k + 1) ⟨[.closeMapping] ++ R, fault, handles, names, count⟩ = _
    rw [Compose.flowEntries]
    rfl
  | fields hne h =>
    simp only [List.length_append, List.length_singleton] at hk
    exact hnode (.block rfl) fun _ _ _ _ _ hnames _ => hentries h (by omega) hnames trivial

lemma composes_word (hv : isWord v = true) (hlong : isLongWord v = false) (h : Scans m v v' T)
    (hk : 2 * T.length + 2 ≤ k) :
    v' = v ∧ Composes (Compose.node block flush k) T env env (Means · v) mayFollow := by
  obtain ⟨k, rfl⟩ : ∃ k', k = k' + 1 := ⟨k - 1, by omega⟩
  cases h with
  | word _ hcs =>
    refine ⟨rfl, fun R fault handles names count hnames hR => ?_⟩
    obtain ⟨n, names', count', hn, ⟨i, hi⟩, hnames'⟩ := Compose.composes_scalar hnames hR
    exact ⟨n, names', count', hn, by rw [hi, if_pos rfl]; exact .word hv hlong hcs, hnames'⟩
  | _ => cases hv

variable {p : ℤ → Bool}

mutual

/-- **The tokens of a value make a node that means what the value is.** -/
theorem composes_node (hp : ∀ n, p n = true → isLong n = false) :
    (v : Value) → v.isNumbered p = true → ∀ ⦃m v' T env env' w k⦄, Scans m v v' T →
    v'.resolve env = some (w, env') → 2 * T.length + 2 ≤ k →
      Composes (Compose.node true m k) T env env' (Means · w) (EndsFlush m)
  | .null, _, _, _, _, _, _, _, _, h, hresolve, hk => by
    obtain ⟨rfl, hnode⟩ := composes_word rfl rfl h hk
    cases hresolve
    exact hnode
  | .bool _, _, _, _, _, _, _, _, _, h, hresolve, hk => by
    obtain ⟨rfl, hnode⟩ := composes_word rfl rfl h hk
    cases hresolve
    exact hnode
  | .int n, hn, _, _, _, _, _, _, _, h, hresolve, hk => by
    have hlong : isLongWord (.int n) = false := hp n hn
    obtain ⟨rfl, hnode⟩ := composes_word rfl hlong h hk
    cases hresolve
    exact hnode
  | .str s, _, _, _, _, _, _, _, k, h, hresolve, hk => by
    cases h with
    | word h => cases h
    | text h =>
      cases hresolve
      obtain ⟨k, rfl⟩ : ∃ k', k = k' + 1 := ⟨k - 1, by omega⟩
      intro R fault handles names count hnames hR
      obtain ⟨n, names', count', hn, ⟨i, rfl⟩, hnames'⟩ := composes_text h hnames hR
      exact ⟨_, names', count', hn, .text, hnames'⟩
  | .list vs, hvs, _, _, _, _, _, _, _, h, hresolve, hk => by
    obtain ⟨vs', rfl⟩ := h.list
    obtain ⟨⟨ws, env'⟩, hws, ⟨⟩⟩ := Option.map_eq_some_iff.1 hresolve
    exact composes_list none h hws nofun hk fun _ _ _ hT hk => composes_items hp vs hvs hT hws hk
  | .map fs, hfs, _, _, _, _, _, _, _, h, hresolve, hk => by
    obtain ⟨fs', rfl⟩ := h.map
    obtain ⟨⟨gs, env'⟩, hgs, ⟨⟩⟩ := Option.map_eq_some_iff.1 hresolve
    exact composes_map none h hgs nofun hk fun _ _ hT hk =>
      composes_entries hp fs (Bool.and_eq_true_iff.1 hfs).2 hT hgs hk
  | .shared id v, hv, _, _, _, env, _, _, k, h, hresolve, hk => by
    cases h with
    | word h => cases h
    | shared hcollection h =>
      rw [Value.resolve] at hresolve
      split_ifs at hresolve with hnew
      have hnew : ∀ id' ∈ some id, env.lookup id'.node = none := by
        rintro _ ⟨⟩
        exact Option.not_isSome_iff_eq_none.1 hnew
      obtain ⟨⟨w, env'⟩, hw, ⟨⟩⟩ := Option.map_eq_some_iff.1 hresolve
      simp only [List.length_append, List.length_singleton] at hk
      have hv := (Bool.and_eq_true_iff.1 hv).2
      cases v with
      | list vs =>
        obtain ⟨vs', rfl⟩ := h.list
        obtain ⟨⟨ws, env'⟩, hws, ⟨⟩⟩ := Option.map_eq_some_iff.1 hw
        exact composes_list (some id) h hws hnew (by omega) fun _ _ _ hT hk => composes_items hp vs hv hT hws hk
      | map fs =>
        obtain ⟨fs', rfl⟩ := h.map
        obtain ⟨⟨gs, env'⟩, hgs, ⟨⟩⟩ := Option.map_eq_some_iff.1 hw
        exact composes_map (some id) h hgs hnew (by omega) fun _ _ hT hk =>
          composes_entries hp fs (Bool.and_eq_true_iff.1 hv).2 hT hgs hk
      | _ => cases hcollection
  | .again id l, _, _, _, _, env, _, w, k, h, hresolve, hk => by
    cases h with
    | word h => cases h
    | again =>
      obtain ⟨k, rfl⟩ : ∃ k', k = k' + 1 := ⟨k - 1, by omega⟩
      rw [Value.resolve] at hresolve
      split at hresolve
      · rename_i hlookup
        cases hresolve
        exact Compose.composes_alias hlookup
      · cases hresolve

/-- **The tokens of items make nodes that mean what the items are.** -/
theorem composes_items (hp : ∀ n, p n = true → isLong n = false) :
    (vs : List Value) → Value.areNumbered p vs = true →
    ∀ ⦃flush vs' T env env' ws k⦄, ScansItems vs vs' T → Value.resolveAll env vs' = some (ws, env') →
      2 * T.length + 1 ≤ k →
      Composes (itemsOf flush k) (T ++ itemsEnd flush) env env' (List.Forall₂ Means · ws) (EndsFlush flush)
  | [], _, _, _, _, _, _, _, k, h, hresolve, hk => by
    cases h
    cases hresolve
    obtain ⟨k, rfl⟩ : ∃ k', k = k' + 1 := ⟨k - 1, by omega⟩
    exact composes_noItems
  | v :: vs, hvs, _, _, _, _, _, _, k, h, hresolve, hk => by
    cases h with
    | cons h hs =>
      obtain ⟨⟨w, env₁⟩, hw, hresolve⟩ := Option.bind_eq_some_iff.1 hresolve
      obtain ⟨⟨ws, env₂⟩, hws, ⟨⟩⟩ := Option.map_eq_some_iff.1 hresolve
      simp only [List.length_append, List.length_singleton] at hk
      obtain ⟨k, rfl⟩ : ∃ k', k = k' + 1 := ⟨k - 1, by omega⟩
      have hvs := Bool.and_eq_true_iff.1 hvs
      rw [List.append_assoc, List.append_assoc]
      exact composes_item h (composes_node hp v hvs.1 h hw (by omega))
        (composes_items hp vs hvs.2 hs hws (by omega))

/-- **The tokens of fields make entries that mean what the fields are.** -/
theorem composes_entries (hp : ∀ n, p n = true → isLong n = false) :
    (fs : List (String × Value)) → Value.fieldsAreNumbered p fs = true →
    ∀ ⦃fs' T env env' gs k⦄, ScansFields fs fs' T → Value.resolveFields env fs' = some (gs, env') →
      2 * T.length + 1 ≤ k →
      Composes (Compose.blockEntries k) (T ++ [.blockEnd]) env env' (List.Forall₂ EntryMeans · gs) fun _ => True
  | [], _, _, _, _, _, _, k, h, hresolve, hk => by
    cases h
    cases hresolve
    obtain ⟨k, rfl⟩ : ∃ k', k = k' + 1 := ⟨k - 1, by omega⟩
    exact composes_noEntries
  | (s, v) :: fs, hfs, _, _, _, _, _, k, h, hresolve, hk => by
    cases h with
    | cons htoken h hs =>
      obtain ⟨⟨w, env₁⟩, hw, hresolve⟩ := Option.bind_eq_some_iff.1 hresolve
      obtain ⟨⟨gs, env₂⟩, hgs, ⟨⟩⟩ := Option.map_eq_some_iff.1 hresolve
      simp only [List.length_append, List.length_cons, List.length_nil] at hk
      obtain ⟨k, rfl⟩ : ∃ k', k = k' + 2 := ⟨k - 2, by omega⟩
      have hfs := Bool.and_eq_true_iff.1 hfs
      rw [List.append_assoc, List.append_assoc]
      refine composes_entry htoken h (composes_node hp v hfs.1 h hw (by omega))
        (composes_entries hp fs hfs.2 hs hgs (by omega)) ?_
      cases hs <;> exact ⟨_, _, rfl, nofun⟩

end

/-! ### Documents -/

/-- **The tokens of a value are those of a document with a node that means what the value is.** -/
theorem ofTokens_of_scans (hp : ∀ n, p n = true → isLong n = false) (hv : v.isNumbered p = true)
    (h : Scans false v v' T) (hresolve : v'.resolve [] = some (w, env)) :
    ∃ n, Node.ofTokens ⟨T ++ [.streamEnd], none⟩ = .ok (some n) ∧ Means n w := by
  obtain ⟨k, hk⟩ : ∃ k, 3 * (T ++ [Token.streamEnd]).length + 3 = k + 1 := ⟨_, rfl⟩
  have hfuel : 2 * T.length + 2 ≤ k + 1 := by
    rw [← hk, List.length_append]
    omega
  have hnode := composes_node hp v hv h hresolve hfuel
  obtain ⟨n, names, count, hn, hmeans, -⟩ := @hnode [.streamEnd] none Compose.standardHandles [] 0 .nil nofun
  refine ⟨n, ?_, hmeans⟩
  have hfirst : Compose.firstDocument (k + 1) ⟨T ++ [.streamEnd], none, [], [], 0⟩ =
      .ok (some n, ⟨[.streamEnd], none, Compose.standardHandles, names, count⟩) := by
    obtain ⟨t, ts, rfl, ht, hentry⟩ := h.head
    have hstart : Compose.firstDocument (k + 1) ⟨t :: ts ++ [.streamEnd], none, [], [], 0⟩ =
        (do pure (some (← Compose.node true false (k + 1))) : Compose (Option Node))
          ⟨t :: ts ++ [.streamEnd], none, Compose.standardHandles, [], 0⟩ := by
      cases t <;> first | rfl | cases ht
    rw [hstart, Compose.bind_apply, hn]
    rfl
  have honly : Compose.onlyDocument (k + 1) ⟨T ++ [.streamEnd], none, [], [], 0⟩ =
      .ok (some n, ⟨[.streamEnd], none, Compose.standardHandles, names, count⟩) := by
    rw [Compose.onlyDocument, Compose.bind_apply, hfirst]
    rfl
  rw [Node.ofTokens, hk]
  exact congrArg (·.map (·.1)) honly

end ApiContract.Yaml
