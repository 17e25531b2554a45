import QueryCache.Proofs.Shown
/-!
# What is shown is the base with the pending edits on top

The overlays and the cache are two structures that nothing but the operations of a session keeps
in step.  `Session.Layers` says that they are: where edits are pending there is an entry, and
its data is the base with the edits replayed in the order in which their writes began; and each
of them belongs to a write that waits for its answer.

Which writes wait is a parameter, since an operation on several keys passes through states in
which a write is settled at some of its keys and waits at the others.
-/

namespace QueryCache.Session

/-- The data shown at a key is the base of its log with the pending edits on top. -/
structure Layer (s : Session) (waits : Nat → Key → Prop) (k : Key) (log : Overlay) : Prop where
  pending : log.pending ≠ []
  shown : ∃ v, s.dataAt k = some v ∧
    v.value = replay s.overlays.idField log.base.value log.pending
  sorted : log.pending.Pairwise fun p q => p.write ≤ q.write
  waits : ∀ p ∈ log.pending, waits p.write k

/-- So it is at every key with a log. -/
structure Layers (s : Session) (idField : String) (waits : Nat → Key → Prop) : Prop where
  idField : s.overlays.idField = idField
  layer : ∀ k log, s.overlays.get? k = some log → s.Layer waits k log

variable {s s' : Session} {idField : String} {waits waits' : Nat → Key → Prop} {k k' : Key}

/-- What leaves data and overlays alone keeps them in step. -/
theorem Layers.shows (h : s.Layers idField waits) (hshows : s.Shows s') :
    s'.Layers idField waits where
  idField := hshows.overlays.idField.trans h.idField
  layer := by
    intro k log hlog
    rw [hshows.overlays.get] at hlog
    obtain ⟨hpending, hshown, hsorted, hwaits⟩ := h.layer k log hlog
    refine ⟨hpending, ?_, hsorted, hwaits⟩
    rw [hshows.data, hshows.overlays.idField]
    exact hshown

/-- An operation on one key has only that key to see to. -/
theorem Layers.update (h : s.Layers idField waits)
    (hidField : s'.overlays.idField = s.overlays.idField)
    (hget : ∀ k', k' ≠ k → s'.overlays.get? k' = s.overlays.get? k')
    (hdata : ∀ k', k' ≠ k → s'.dataAt k' = s.dataAt k')
    (hwaits : ∀ n k', k' ≠ k → waits n k' → waits' n k')
    (hlayer : ∀ log, s'.overlays.get? k = some log → s'.Layer waits' k log) :
    s'.Layers idField waits' where
  idField := hidField.trans h.idField
  layer := by
    intro k' log hlog
    by_cases hk : k' = k
    · subst hk
      exact hlayer log hlog
    · rw [hget k' hk] at hlog
      obtain ⟨hpending, hshown, hsorted, hwaiting⟩ := h.layer k' log hlog
      refine ⟨hpending, ?_, hsorted, fun p hp => hwaits p.write k' hk (hwaiting p hp)⟩
      rw [hdata k' hk, hidField]
      exact hshown

/-- Whoever waits in the one sense may wait in the other. -/
theorem Layers.mono (h : s.Layers idField waits) (hwaits : ∀ n k, waits n k → waits' n k) :
    s.Layers idField waits' where
  idField := h.idField
  layer := by
    intro k log hlog
    obtain ⟨hpending, hshown, hsorted, hwaiting⟩ := h.layer k log hlog
    exact ⟨hpending, hshown, hsorted, fun p hp => hwaits p.write k (hwaiting p hp)⟩

/-- A version that is displayed is shown where there is an entry. -/
theorem dataAt_display (s : Session) (k : Key) (data : Version) (k' : Key) :
    (s.display k data).dataAt k' =
      if k' = k then (s.read k).map fun _ => data else s.dataAt k' := by
  change (s.cache.write k fun e => e.display data).2.read k' >>= Entry.data = _
  rw [Cache.read_write]
  by_cases h : k' = k
  · rw [if_pos h, if_pos h]
    unfold Session.read
    cases s.cache.read k <;> rfl
  · rw [if_neg h, if_neg h]
    rfl

/-- Data is shown only where there is an entry. -/
theorem read_of_dataAt {v : Version} (h : s.dataAt k = some v) : ∃ e, s.read k = some e := by
  unfold dataAt at h
  cases hread : s.read k with
  | none => rw [hread] at h; cases h
  | some e => exact ⟨e, rfl⟩

/-! ## Laying edits -/

/-- The log that the next edit of a key is added to. -/
theorem Layers.logOn (h : s.Layers idField waits) {shown : Version}
    (hshown : s.dataAt k = some shown) :
    shown.value = replay s.overlays.idField (s.overlays.logOn k shown).base.value
        (s.overlays.logOn k shown).pending ∧
      (s.overlays.logOn k shown).pending.Pairwise (fun p q => p.write ≤ q.write) ∧
      ∀ p ∈ (s.overlays.logOn k shown).pending, waits p.write k := by
  unfold Overlays.logOn
  cases hlog : s.overlays.get? k with
  | none => exact ⟨rfl, .nil, nofun⟩
  | some log =>
      obtain ⟨-, ⟨v, hv, hreplay⟩, hsorted, hwaits⟩ := h.layer k log hlog
      obtain rfl := Option.some.inj (hshown.symm.trans hv)
      exact ⟨hreplay, hsorted, hwaits⟩

/-- One more edit goes on top. -/
theorem Layers.lay (h : s.Layers idField waits) {write : Nat}
    (hlatest : ∀ n k, waits n k → n ≤ write) {shown : Version} (hshown : s.dataAt k = some shown)
    (edit : Edit) :
    (({ s with overlays := (s.overlays.apply write k shown edit).2 } : Session).display k
      (s.overlays.apply write k shown edit).1).Layers idField
        fun n k' => waits n k' ∨ (n = write ∧ k' = k) := by
  obtain ⟨e, hread⟩ := read_of_dataAt hshown
  obtain ⟨hvalue, hsorted, hwaits⟩ := h.logOn hshown
  have hget := s.overlays.get?_apply write k shown edit
  refine h.update (k := k) rfl ?_ ?_ (fun n k' _ hw => Or.inl hw) ?_
  · intro k' hk
    exact (hget k').trans (if_neg hk)
  · intro k' hk
    rw [dataAt_display, if_neg hk]
    rfl
  · intro log hlog
    have hsome := ((hget k).trans (if_pos rfl)).symm.trans hlog
    obtain rfl := Option.some.inj hsome
    refine ⟨by simp, ⟨(s.overlays.apply write k shown edit).1, ?_, ?_⟩, ?_, ?_⟩
    · rw [dataAt_display, if_pos rfl]
      exact congrArg (Option.map fun _ => _) hread
    · change edit.apply s.overlays.idField shown.value = _
      rw [replay_append, hvalue]
      rfl
    · refine List.pairwise_append.mpr ⟨hsorted, List.pairwise_singleton _ _, ?_⟩
      intro p hp q hq
      obtain rfl := List.mem_singleton.mp hq
      exact hlatest p.write k (hwaits p hp)
    · intro p hp
      rcases List.mem_append.mp hp with hp | hp
      · exact Or.inl (hwaits p hp)
      · obtain rfl := List.mem_singleton.mp hp
        exact Or.inr ⟨rfl, rfl⟩

/-- All edits of a write go on top, and wait at the keys where this is done. -/
theorem Layers.layEdits (h : s.Layers idField waits) {write : Nat}
    (hlatest : ∀ n k, waits n k → n ≤ write) (edits : List SpeculativeEdit) :
    (s.layEdits write edits).2.Layers idField
      fun n k => waits n k ∨ (n = write ∧ k ∈ (s.layEdits write edits).1) := by
  induction edits generalizing s waits with
  | nil => exact h.mono fun n k hw => Or.inl hw
  | cons e rest ih =>
      unfold Session.layEdits
      cases hshown : s.dataAt e.target with
      | none => exact ih h hlatest
      | some shown =>
          have hlaid := h.lay hlatest hshown e.edit
          have hlatest' : ∀ n k, waits n k ∨ (n = write ∧ k = e.target) → n ≤ write := by
            intro n k hwaiting
            rcases hwaiting with hw | ⟨rfl, -⟩
            · exact hlatest n k hw
            · exact Nat.le_refl _
          refine (ih hlaid hlatest').mono ?_
          intro n k hwaiting
          rcases hwaiting with (hw | ⟨rfl, rfl⟩) | ⟨rfl, hk⟩
          · exact Or.inl hw
          · exact Or.inr ⟨rfl, List.mem_cons_self⟩
          · exact Or.inr ⟨rfl, List.mem_cons_of_mem _ hk⟩

/-! ## Settling edits -/

/-- A log that is settled anew is shown. -/
theorem Layers.settle (h : s.Layers idField waits) {o : Overlays} (hagrees : s.overlays.Agrees o)
    {log : Overlay} (hoverlays : s'.overlays = (o.settle k log).2)
    (hdata : ∀ k', s'.dataAt k' = if k' = k then some (o.settle k log).1 else s.dataAt k')
    (hwaits : ∀ n k', k' ≠ k → waits n k' → waits' n k')
    (hsorted : log.pending.Pairwise fun p q => p.write ≤ q.write)
    (hpending : ∀ p ∈ log.pending, waits' p.write k) : s'.Layers idField waits' := by
  have hget := o.get?_settle k log
  have hidField : s'.overlays.idField = o.idField := by rw [hoverlays, o.idField_settle]
  refine h.update (k := k) (hidField.trans hagrees.idField) ?_ ?_ hwaits ?_
  · intro k' hk
    rw [hoverlays, hget, if_neg hk, hagrees.get]
  · intro k' hk
    rw [hdata, if_neg hk]
  · intro log' hlog
    rw [hoverlays, hget, if_pos rfl] at hlog
    by_cases hempty : log.pending = []
    · rw [if_pos hempty] at hlog
      cases hlog
    · rw [if_neg hempty] at hlog
      obtain rfl := Option.some.inj hlog
      refine ⟨hempty, ⟨(o.settle k log).1, by rw [hdata, if_pos rfl], ?_⟩, hsorted, hpending⟩
      rw [Overlays.value_settle, hidField]

/-- The edits of a write are gone from one key, and it waits there no longer. -/
theorem Layers.clear (h : s.Layers idField waits) {write : Nat}
    {result : Option Version × Overlays} (hclears : Overlays.Clears write s.overlays k result) :
    (match result.1 with
      | none => ({ s with overlays := result.2 } : Session)
      | some data => ({ s with overlays := result.2 } : Session).display k data).Layers idField
        fun n k' => waits n k' ∧ ¬(n = write ∧ k' = k) := by
  rcases hclears with ⟨rfl, hnone⟩ | ⟨o, log, base, rest, hagrees, hlog, rfl, rfl⟩
  · refine h.update (k := k) rfl (fun _ _ => rfl) (fun _ _ => rfl)
      (fun n k' hk hw => ⟨hw, fun hand => hk hand.2⟩) ?_
    intro log hlog
    obtain ⟨hpending, hshown, hsorted, hwaits⟩ := h.layer k log hlog
    exact ⟨hpending, hshown, hsorted,
      fun p hp => ⟨hwaits p hp, fun hand => hnone log hlog p hp hand.1⟩⟩
  · obtain ⟨-, ⟨v, hv, -⟩, hsorted, hwaits⟩ := h.layer k log hlog
    obtain ⟨e, hread⟩ := read_of_dataAt hv
    refine h.settle hagrees rfl ?_ (fun n k' hk hw => ⟨hw, fun hand => hk hand.2⟩)
      (hsorted.filter _) ?_
    · intro k'
      rw [dataAt_display]
      split
      · exact congrArg (Option.map fun _ => _) hread
      · rfl
    · intro p hp
      obtain ⟨hmem, hother⟩ := List.mem_filter.mp hp
      refine ⟨hwaits p hmem, fun hand => ?_⟩
      simp [hand.1] at hother

/-- The edits of a write are gone from all these keys. -/
theorem Layers.settleEdits (h : s.Layers idField waits) {write : Nat}
    {settle : Overlays → Key → Option Version × Overlays}
    (hclears : ∀ o k, Overlays.Clears write o k (settle o k)) (keys : List Key) :
    (s.settleEdits settle keys).2.Layers idField
      fun n k => waits n k ∧ ¬(n = write ∧ k ∈ keys) := by
  induction keys generalizing s waits with
  | nil => exact h.mono fun n k hw => ⟨hw, fun hand => nomatch hand.2⟩
  | cons k rest ih =>
      have hcleared := h.clear (hclears s.overlays k)
      have hall : ∀ n k', (waits n k' ∧ ¬(n = write ∧ k' = k)) ∧ ¬(n = write ∧ k' ∈ rest) →
          waits n k' ∧ ¬(n = write ∧ k' ∈ k :: rest) := by
        intro n k' hwaiting
        obtain ⟨⟨hw, hhead⟩, htail⟩ := hwaiting
        refine ⟨hw, fun hand => ?_⟩
        rcases List.mem_cons.mp hand.2 with hk | hk
        · exact hhead ⟨hand.1, hk⟩
        · exact htail ⟨hand.1, hk⟩
      unfold Session.settleEdits
      cases hresult : settle s.overlays k with
      | mk shown overlays =>
          rw [hresult] at hcleared
          cases shown with
          | none => exact (ih hcleared).mono hall
          | some data => exact (ih hcleared).mono hall

/-! ## Fetched data -/

/-- A change shows at its key alone. -/
theorem dataAt_change (s : Session) (k : Key) (change : Entry → Entry) (k' : Key) :
    (s.change k change).dataAt k' =
      if k' = k then (s.read k).bind fun e => (change e).data else s.dataAt k' := by
  have hread : (s.change k change).read k' =
      if k' = k then (s.read k).map change else s.read k' :=
    congrArg Cell.entry (cell_change s k change k' (fun _ => none) none none)
  unfold dataAt
  rw [hread]
  split
  · cases s.read k <;> rfl
  · rfl

theorem overlays_change (s : Session) (k : Key) (change : Entry → Entry) :
    (s.change k change).overlays = s.overlays := by
  unfold Session.change
  split <;> rfl

/-- An answer is shown with the pending edits on top. -/
theorem shown_store {f : Fetch} (hgen : s.generation = f.generation) (now : Nat) (value : Json) :
    (s.store now f value).1 =
      ((s.overlays.mint value).2.rebase f.key (s.overlays.mint value).1).1 := by
  unfold Session.store
  simp [hgen]

/-- An answer is made the base of its log. -/
theorem overlays_store {f : Fetch} (hgen : s.generation = f.generation) (now : Nat)
    (value : Json) : (s.store now f value).2.overlays =
      ((s.overlays.mint value).2.rebase f.key (s.overlays.mint value).1).2 := by
  rw [store_current hgen]
  exact overlays_change _ _ _

/-- An answer is shown at the key of its fetch alone. -/
theorem dataAt_store {f : Fetch} (hgen : s.generation = f.generation) (now : Nat) (value : Json)
    (k : Key) : (s.store now f value).2.dataAt k =
      if k = f.key then (s.read f.key).map fun _ => (s.store now f value).1 else s.dataAt k := by
  rw [store_current hgen, dataAt_change]
  split
  · change (s.read f.key).bind _ = _
    cases s.read f.key <;> rfl
  · rfl

/-- A fetched value goes underneath the edits that are pending. -/
theorem Layers.store (h : s.Layers idField waits) (now : Nat) (f : Fetch) (value : Json) :
    (s.store now f value).2.Layers idField waits := by
  have hminted := Overlays.agrees_mint s.overlays value
  by_cases hgen : s.generation = f.generation
  · have hfirst := shown_store hgen now value
    have hoverlays := overlays_store hgen now value
    have hdata := dataAt_store hgen now value
    cases hlog : s.overlays.get? f.key with
    | none =>
        have hrebase : (s.overlays.mint value).2.rebase f.key (s.overlays.mint value).1 =
            ((s.overlays.mint value).1, (s.overlays.mint value).2) := by
          unfold Overlays.rebase
          rw [hminted.get, hlog]
        rw [hrebase] at hoverlays
        refine h.update (k := f.key) ?_ ?_ ?_ (fun n k' _ hw => hw) ?_
        · rw [hoverlays]
          rfl
        · intro k' _
          rw [hoverlays]
          rfl
        · intro k' hk
          rw [hdata, if_neg hk]
        · intro log hlog'
          rw [hoverlays, hminted.get, hlog] at hlog'
          cases hlog'
    | some log =>
        obtain ⟨-, ⟨v, hv, -⟩, hsorted, hwaits⟩ := h.layer f.key log hlog
        obtain ⟨e, hread⟩ := read_of_dataAt hv
        have hrebase : (s.overlays.mint value).2.rebase f.key (s.overlays.mint value).1 =
            (s.overlays.mint value).2.settle f.key
              { log with base := (s.overlays.mint value).1 } := by
          unfold Overlays.rebase
          rw [hminted.get, hlog]
        rw [hrebase] at hoverlays hfirst
        refine h.settle hminted hoverlays ?_ (fun n k' _ hw => hw) hsorted hwaits
        intro k'
        rw [hdata, hread, hfirst]
        rfl
  · rw [store_older hgen]
    exact h.shows ⟨hminted, fun _ => rfl, rfl⟩

/-! ## Dropping -/

theorem idField_forgets (l : List Key) (s : Session) :
    (l.foldl forget s).overlays.idField = s.overlays.idField := by
  induction l generalizing s with
  | nil => rfl
  | cons k l ih => exact ih (s.forget k)

/-- The logs of the keys that are forgotten are gone, and no others. -/
theorem get?_forgets (l : List Key) (s : Session) (k : Key) :
    (l.foldl forget s).overlays.get? k = if k ∈ l then none else s.overlays.get? k := by
  induction l generalizing s with
  | nil => rfl
  | cons k' l ih =>
      have hone : (s.forget k').overlays.get? k = if k = k' then none else s.overlays.get? k :=
        s.overlays.get?_forget k' k
      rw [List.foldl_cons, ih, hone]
      by_cases hk : k = k'
      · simp [hk]
      · simp [hk]

/-- The entries of the keys that are removed and forgotten are gone, and no others. -/
theorem read_drops (s : Session) (l : List Key) (k : Key) :
    (l.foldl forget { s with cache := l.foldl Cache.remove s.cache }).read k =
      if k ∈ l then none else s.read k :=
  (congrArg Cell.entry (cell_forgets l _ k (fun _ => none) none none)).trans
    (read_removes l s.cache k)

/-- With an entry its log is dropped. -/
theorem Layers.drops (h : s.Layers idField waits) (l : List Key) :
    (l.foldl forget { s with cache := l.foldl Cache.remove s.cache }).Layers idField waits where
  idField := (idField_forgets l _).trans h.idField
  layer := by
    intro k log hlog
    rw [get?_forgets] at hlog
    split at hlog
    · cases hlog
    · rename_i hk
      obtain ⟨hpending, hshown, hsorted, hwaits⟩ := h.layer k log hlog
      refine ⟨hpending, ?_, hsorted, hwaits⟩
      unfold dataAt
      rw [read_drops, if_neg hk, idField_forgets]
      exact hshown

/-- A reset leaves no entry. -/
theorem read_reset (s : Session) (k : Key) : s.reset.read k = none := by
  simp [Session.reset, read, Cache.clear, Cache.read]

/-- A reset leaves no log, so nothing can be out of step. -/
theorem Layers.reset (h : s.Layers idField waits) : s.reset.Layers idField waits' where
  idField := h.idField
  layer := by
    intro k log hlog
    simp [Session.reset, Overlays.clear, Overlays.get?] at hlog

end QueryCache.Session
