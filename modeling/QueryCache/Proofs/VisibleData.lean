import QueryCache.Proofs.Course
import QueryCache.Proofs.Layers
/-!
# Visible data is always base plus pending edits

After every history, and whatever its setup: where edits are pending the entry shows its base with
these edits on top, in the order in which their writes began, and every one of them belongs to a
write that waits for its answer (`visible_data`).  So when no write waits, no edit is left.

The steps are those of `Layers`, one for each operation; the writes that wait are those the
situation has on record.
-/

namespace QueryCache

namespace Session

variable {s : Session} {idField : String} {waits : Nat → Key → Prop}

theorem nextWrite_layEdits (write : Nat) (edits : List SpeculativeEdit) (s : Session) :
    (s.layEdits write edits).2.nextWrite = s.nextWrite := by
  induction edits generalizing s with
  | nil => rfl
  | cons e rest ih =>
      unfold layEdits
      cases s.dataAt e.target with
      | none => exact ih s
      | some shown => exact ih _

theorem nextWrite_settleEdits (settle : Overlays → Key → Option Version × Overlays)
    (keys : List Key) (s : Session) : (s.settleEdits settle keys).2.nextWrite = s.nextWrite :=
  same_settleEdits (fun _ _ => rfl) (fun _ _ _ => rfl) settle keys s

theorem nextWrite_forgets (l : List Key) (s : Session) :
    (l.foldl forget s).nextWrite = s.nextWrite := by
  induction l generalizing s with
  | nil => rfl
  | cons k l ih => exact ih (s.forget k)

theorem nextWrite_store (s : Session) (now : Nat) (f : Fetch) (value : Json) :
    (s.store now f value).2.nextWrite = s.nextWrite := by
  by_cases hgen : s.generation = f.generation
  · rw [store_current hgen]
    unfold Session.change
    split <;> rfl
  · rw [store_older hgen]

/-- A write that begins takes a number. -/
theorem nextWrite_beginWrite (s : Session) (edits : List SpeculativeEdit) :
    (s.beginWrite edits).2.nextWrite = s.nextWrite + 1 :=
  (shows_foldl shows_publish _ _).nextWrite.trans (nextWrite_layEdits _ edits _)

theorem nextWrite_withdraw (s : Session) (w : Write) : (s.withdraw w).nextWrite = s.nextWrite :=
  (shows_foldl shows_publish _ _).nextWrite.trans (nextWrite_settleEdits _ w.targets s)

theorem nextWrite_settleWrite (s : Session) (w : Write) (response : Json) :
    (s.settleWrite w response).nextWrite = s.nextWrite :=
  (shows_foldl shows_publish _ _).nextWrite.trans (nextWrite_settleEdits _ w.targets s)

/-! ## Writes -/

/-- When a write begins it waits at its keys. -/
theorem Layers.beginWrite (h : s.Layers idField waits)
    (hearly : ∀ n k, waits n k → n < s.nextWrite) (edits : List SpeculativeEdit) :
    (s.beginWrite edits).2.Layers idField
      fun n k => waits n k ∨ (n = s.nextWrite ∧ k ∈ (s.beginWrite edits).1.targets) := by
  have hcounted : Layers { s with nextWrite := s.nextWrite + 1 } idField waits := by
    refine ⟨h.idField, fun k log hlog => ?_⟩
    obtain ⟨hpending, hshown, hsorted, hwaits⟩ := h.layer k log hlog
    exact ⟨hpending, hshown, hsorted, hwaits⟩
  have hlaid := hcounted.layEdits (fun n k hw => Nat.le_of_lt (hearly n k hw)) edits
  refine (hlaid.shows (shows_foldl shows_publish _ _)).mono ?_
  intro n k hwaiting
  rcases hwaiting with hw | ⟨rfl, hk⟩
  · exact Or.inl hw
  · exact Or.inr ⟨rfl, List.mem_eraseDups.mpr hk⟩

/-- When a write is taken back it waits nowhere. -/
theorem Layers.withdraw (h : s.Layers idField waits) (w : Write) :
    (s.withdraw w).Layers idField fun n k => waits n k ∧ ¬(n = w.id ∧ k ∈ w.targets) :=
  (h.settleEdits (Overlays.clears_rollback w.id) w.targets).shows (shows_foldl shows_publish _ _)

/-- When a write is settled it waits nowhere. -/
theorem Layers.settleWrite (h : s.Layers idField waits) (w : Write) (response : Json) :
    (s.settleWrite w response).Layers idField
      fun n k => waits n k ∧ ¬(n = w.id ∧ k ∈ w.targets) :=
  (h.settleEdits (fun o k => Overlays.clears_commit w.id response o k) w.targets).shows
    (shows_foldl shows_publish _ _)

/-- What else a failed write does is not to be seen. -/
theorem shows_giveUp (s : Session) (w : Write) (failure : Failure) :
    (s.withdraw w).Shows (s.giveUp w failure) :=
  .of_same rfl rfl rfl

/-- What a confirmation does besides settling the write is not to be seen. -/
theorem shows_confirm (s : Session) (w : Write) (m : Mutation) (args response : Json) :
    (s.settleWrite w response).Shows (s.confirm w m args response) := by
  have hdeclared : (s.settleWrite w response).Shows
      (if (m.stales args response).isEmpty then s.settleWrite w response
        else ((s.settleWrite w response).invalidate (m.stales args response)).2) := by
    split
    · exact .refl _
    · exact shows_invalidate _ _
  unfold confirm
  cases m.announcement with
  | none => exact hdeclared
  | some message => exact ⟨hdeclared.overlays, hdeclared.data, hdeclared.nextWrite⟩

end Session

namespace Situation

/-! ## Events -/

/-- What an event does to the data shown, to the edits that wait and to the writes on record. -/
inductive Turned (p : Situation) : Event → Situation → Prop
  /-- Nothing is shown that was not shown before. -/
  | still {e : Event} {p' : Situation} (hshows : p.session.Shows p'.session)
      (hwrites : p'.writes = p.writes) : Turned p e p'
  | stored {p' : Situation} {now flight : Nat} {f : Fetch} {value : Json}
      (hshows : (p.session.store now f value).2.Shows p'.session)
      (hwrites : p'.writes = p.writes) (hair : p.session.fetches[flight]? = some f) :
      Turned p (.land flight (.ok value)) p'
  | dropped {e : Event} {p' : Situation} {l : List Key}
      (hshows : (l.foldl Session.forget
        { p.session with cache := l.foldl Cache.remove p.session.cache }).Shows p'.session)
      (hwrites : p'.writes = p.writes)
      (hread : ∀ k, p'.session.read k = if k ∈ l then none else p.session.read k) : Turned p e p'
  | emptied {p' : Situation} (hshows : p.session.reset.Shows p'.session)
      (hwrites : p'.writes = p.writes) : Turned p .reset p'
  | begun {p' : Situation} {mutation : Mutation} {args : Json} {edits : List SpeculativeEdit}
      (hshows : (p.session.beginWrite edits).2.Shows p'.session)
      (hwrites : p'.writes = p.writes.insert p.session.nextWrite
        ⟨(p.session.beginWrite edits).1, mutation, args⟩) :
      Turned p (.write mutation args edits) p'
  /-- The server has confirmed a write on record. -/
  | confirmed {p' : Situation} {write : Nat} {u : Undertaking} {response : Json}
      (hwrite : p.writes[write]? = some u)
      (hshows : (p.session.settleWrite u.write response).Shows p'.session)
      (hwrites : p'.writes = p.writes.erase write) : Turned p (.confirm write response) p'
  /-- A write on record is given up. -/
  | withdrawn {e : Event} {p' : Situation} {write : Nat} {u : Undertaking}
      (hwrite : p.writes[write]? = some u)
      (hshows : (p.session.withdraw u.write).Shows p'.session)
      (hwrites : p'.writes = p.writes.erase write) : Turned p e p'

/-- An eviction drops what it removes, and shows nothing new. -/
theorem turned_evict (p : Situation) (now : Nat) (k : Key) {e : Event} :
    p.Turned e (p.become (p.session.evict now k)) := by
  simp only [Session.evict, Cache.evict]
  split
  · rename_i cache hevict
    split at hevict
    · cases hevict
      exact .dropped (l := [k]) (Session.shows_takeErrands _) rfl (Session.read_drops p.session [k])
    · cases hevict
  · exact .still (Session.shows_takeErrands _) rfl

/-- A collection drops what it removes, and shows nothing new. -/
theorem turned_collect (p : Situation) (now : Nat) {e : Event} :
    p.Turned e (p.become (p.session.collect now).2) := by
  have hsame : ∀ {s : Session} {polls : Polls}, s.Shows { s with polls := polls } :=
    .of_same rfl rfl rfl
  exact .dropped (l := (p.session.cache.collect now).1) (hsame.trans (Session.shows_takeErrands _))
    rfl (Session.read_drops p.session _)

/-- A landing shows the answer under the edits that wait, if it counts. -/
theorem turned_land (p : Situation) {now flight : Nat} {f : Fetch}
    (hair : p.session.fetches[flight]? = some f) (brought : Except Failure Json) :
    p.Turned (.land flight brought)
      { p.become (p.session.land now flight f brought).2 with
        landed := p.landed.insert flight f } := by
  rw [Session.land_eq]
  have hclosed : ∀ s : Session, s.Shows (s.closed flight f).takeErrands.2 := fun s =>
    (Session.shows_closed s flight f).trans (Session.shows_takeErrands _)
  cases brought with
  | ok value => exact .stored (hclosed _) rfl hair
  | error failure => exact .still ((Session.shows_storeFailure _ f failure).trans (hclosed _)) rfl

/-- **What an event does to what is shown.** -/
theorem turned_step (p : Situation) (now : Nat) (e : Event) : p.Turned e (p.step now e) := by
  have htaken : ∀ {s s' : Session}, s.Shows s' → s.Shows s'.takeErrands.2 :=
    fun h => h.trans (Session.shows_takeErrands _)
  have hoccurs := p.occurs_step now e
  generalize p.step now e = p' at hoccurs ⊢
  cases hoccurs with
  | nothing => exact .still (.refl _) rfl
  | subscribe => exact .still (htaken (Session.shows_subscribe _ now _ _)) rfl
  | unsubscribe ticket => exact .still (htaken (Session.shows_unsubscribe _ now ticket)) rfl
  | query => exact .still (htaken (Session.shows_query _ now _ _)) rfl
  | refetch k | ticks => exact .still (htaken (Session.shows_refetch _ _)) rfl
  | ends => exact .still (.of_same rfl rfl rfl) rfl
  | evict k => exact p.turned_evict now k
  | collect => exact p.turned_collect now
  | reset => exact .emptied (htaken (.refl _)) rfl
  | invalidate tags => exact .still (htaken (Session.shows_invalidate _ tags)) rfl
  | write => exact .begun (htaken (.refl _)) rfl
  | confirm hwrite response =>
      exact .confirmed hwrite (htaken (Session.shows_confirm _ _ _ _ response)) rfl
  | giveUp hwrite failure =>
      exact .withdrawn hwrite (htaken (Session.shows_giveUp _ _ failure)) rfl
  | cancel hwrite => exact .withdrawn hwrite (htaken (.refl _)) rfl
  | land hair brought => exact p.turned_land hair brought
  | followUp => exact .still (htaken (Session.shows_followUp _ _)) rfl
  | standIn => exact .still (.of_same rfl rfl rfl) rfl

/-! ## The layers after an event -/

/-- A write that aims at the key waits for its answer. -/
def Waits (p : Situation) (write : Nat) (k : Key) : Prop :=
  ∃ u, p.writes[write]? = some u ∧ k ∈ u.write.targets

structure Layered (p : Situation) (idField : String) : Prop where
  ids : ∀ (n : Nat) (u : Undertaking), p.writes[n]? = some u →
    u.write.id = n ∧ n < p.session.nextWrite
  layers : p.session.Layers idField p.Waits

variable {p p' : Situation} {s : Session} {idField : String}

/-- What does not settle a write. -/
theorem Layered.of_layers (h : p.Layered idField) (hlayers : s.Layers idField p.Waits)
    (hnext : s.nextWrite = p.session.nextWrite) (hshows : s.Shows p'.session)
    (hwrites : p'.writes = p.writes) : p'.Layered idField where
  ids := by
    rw [hwrites, hshows.nextWrite, hnext]
    exact h.ids
  layers := by
    refine (hlayers.shows hshows).mono ?_
    intro n k hwaiting
    obtain ⟨u, hu, hk⟩ := hwaiting
    exact ⟨u, by rw [hwrites]; exact hu, hk⟩

/-- A write that has an answer waits no longer. -/
theorem Layered.settled (h : p.Layered idField) {write : Nat} {u : Undertaking}
    (hu : p.writes[write]? = some u)
    (hlayers : s.Layers idField
      fun n k => p.Waits n k ∧ ¬(n = u.write.id ∧ k ∈ u.write.targets))
    (hnext : s.nextWrite = p.session.nextWrite) (hshows : s.Shows p'.session)
    (hwrites : p'.writes = p.writes.erase write) : p'.Layered idField where
  ids := by
    intro n u' hu'
    rw [hwrites, Std.ExtTreeMap.getElem?_erase] at hu'
    rw [hshows.nextWrite, hnext]
    split at hu'
    · cases hu'
    · exact h.ids n u' hu'
  layers := by
    have hid := (h.ids write u hu).1
    refine (hlayers.shows hshows).mono ?_
    intro n k hwaiting
    obtain ⟨⟨u', hu', hk⟩, hother⟩ := hwaiting
    refine ⟨u', ?_, hk⟩
    rw [hwrites, Std.ExtTreeMap.getElem?_erase]
    by_cases hn : write = n
    · subst hn
      obtain rfl := Option.some.inj (hu.symm.trans hu')
      exact absurd ⟨hid.symm, hk⟩ hother
    · simpa [hn] using hu'

/-- A write that begins waits from then on. -/
theorem Layered.begun (h : p.Layered idField) {mutation : Mutation} {args : Json}
    {edits : List SpeculativeEdit} (hshows : (p.session.beginWrite edits).2.Shows p'.session)
    (hwrites : p'.writes = p.writes.insert p.session.nextWrite
      ⟨(p.session.beginWrite edits).1, mutation, args⟩) : p'.Layered idField := by
  have hearly : ∀ n k, p.Waits n k → n < p.session.nextWrite := by
    intro n k hwaiting
    obtain ⟨u, hu, -⟩ := hwaiting
    exact (h.ids n u hu).2
  have hbegun := h.layers.beginWrite hearly edits
  have hnext : p'.session.nextWrite = p.session.nextWrite + 1 :=
    hshows.nextWrite.trans (Session.nextWrite_beginWrite p.session edits)
  have hinsert : ∀ n, p'.writes[n]? =
      if n = p.session.nextWrite then
        some ⟨(p.session.beginWrite edits).1, mutation, args⟩
      else p.writes[n]? := by
    intro n
    rw [hwrites, Std.ExtTreeMap.getElem?_insert]
    by_cases hn : n = p.session.nextWrite
    · rw [if_pos hn, if_pos (by simp [hn])]
    · simp [hn, Ne.symm hn]
  refine ⟨?_, ?_⟩
  · intro n u hu
    rw [hinsert] at hu
    rw [hnext]
    split at hu
    · rename_i hn
      cases hu
      exact ⟨hn.symm, by omega⟩
    · have := h.ids n u hu
      exact ⟨this.1, by omega⟩
  · refine (hbegun.shows hshows).mono ?_
    intro n k hwaiting
    rcases hwaiting with ⟨u, hu, hk⟩ | ⟨rfl, hk⟩
    · have hlt := (h.ids n u hu).2
      exact ⟨u, by rw [hinsert, if_neg (by omega)]; exact hu, hk⟩
    · exact ⟨_, by rw [hinsert, if_pos rfl], hk⟩

/-- Every event keeps the layers. -/
theorem Layered.step (h : p.Layered idField) (now : Nat) (e : Event) :
    (p.step now e).Layered idField := by
  cases turned_step p now e with
  | still hshows hwrites => exact h.of_layers h.layers rfl hshows hwrites
  | stored hshows hwrites =>
      exact h.of_layers (h.layers.store _ _ _) (Session.nextWrite_store _ _ _ _) hshows hwrites
  | dropped hshows hwrites =>
      exact h.of_layers (h.layers.drops _) (Session.nextWrite_forgets _ _) hshows hwrites
  | emptied hshows hwrites => exact h.of_layers h.layers.reset rfl hshows hwrites
  | begun hshows hwrites => exact h.begun hshows hwrites
  | confirmed hwrite hshows hwrites =>
      exact h.settled hwrite (h.layers.settleWrite _ _)
        (Session.nextWrite_settleWrite _ _ _) hshows hwrites
  | withdrawn hwrite hshows hwrites =>
      exact h.settled hwrite (h.layers.withdraw _)
        (Session.nextWrite_withdraw _ _) hshows hwrites

/-- Data and overlays are in step after every history. -/
theorem layered_after (setup : Setup) (h : History) :
    (after setup h).Layered setup.options.idField := by
  induction h with
  | nil =>
      refine ⟨fun n u hu => ?_, rfl, fun k log hlog => ?_⟩
      · simp [after, start] at hu
      · simp [after, start, Session.start, Overlays.empty, Overlays.get?] at hlog
  | cons event h ih => exact ih.step event.1 event.2

/-- **Visible data is always base plus pending edits.**  At a key with a log some edit is pending,
there is an entry, it shows the base with the pending edits made in the order in which their
writes began, and each of these writes waits for its answer.  When no write waits there is no
log. -/
theorem visible_data (setup : Setup) (h : History) (k : Key) :
    (∀ log, (after setup h).session.overlays.get? k = some log →
      log.pending ≠ [] ∧
      (∃ e v, (after setup h).session.read k = some e ∧ e.data = some v ∧
        v.value = replay setup.options.idField log.base.value log.pending) ∧
      log.pending.Pairwise (fun p q => p.write ≤ q.write) ∧
      ∀ p ∈ log.pending, ∃ u, (after setup h).writes[p.write]? = some u ∧
        u.write.id = p.write ∧ k ∈ u.write.targets) ∧
    ((after setup h).writes = ∅ → (after setup h).session.overlays.get? k = none) := by
  obtain ⟨hids, hidField, hlayers⟩ := layered_after setup h
  have hlayer : ∀ log, (after setup h).session.overlays.get? k = some log → _ := hlayers k
  constructor
  · intro log hlog
    obtain ⟨hpending, ⟨v, hv, hvalue⟩, hsorted, hwaits⟩ := hlayer log hlog
    obtain ⟨e, hread⟩ := Session.read_of_dataAt hv
    refine ⟨hpending, ⟨e, v, hread, ?_, ?_⟩, hsorted, fun p hp => ?_⟩
    · simpa [Session.dataAt, hread] using hv
    · rw [hvalue, hidField]
    · obtain ⟨u, hu, hk⟩ := hwaits p hp
      exact ⟨u, hu, (hids p.write u hu).1, hk⟩
  · intro hnone
    cases hlog : (after setup h).session.overlays.get? k with
    | none => rfl
    | some log =>
        obtain ⟨hpending, -, -, hwaits⟩ := hlayer log hlog
        obtain ⟨p, hp⟩ := List.exists_mem_of_ne_nil log.pending hpending
        obtain ⟨u, hu, -⟩ := hwaits p hp
        rw [hnone] at hu
        simp at hu

end Situation

end QueryCache
