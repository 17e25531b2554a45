import QueryCache.Proofs.Attendance
import QueryCache.Proofs.Generation
/-!
# A write that fails leaves no trace

A write that fails has shown its edits for a while, on top of those of others and under those of
writes begun later, and takes them back.  Nothing is put back for that: the base of the log has been
there all the time, and is shown again, as the version it was, once the last edit is gone.

* `Session.Anchored` — the data of a key is what it was at some moment, or that is the base of its
  log, and all edits of the log belong to writes begun since.
* `anchored_step` — so it stays, as long as the key is left `Undisturbed`: no answer is stored there,
  the entry is not dropped, and no write that has edits there is confirmed.
* `standing_step` — the events of a failing write change of the entries the data shown and no more.

`failed_writes_undone` puts these together.
-/

namespace QueryCache

namespace Overlays

variable {o : Overlays} {k k' : Key} {write : Nat} {result : Option Version × Overlays}

/-- Edits are taken out of a log, and its base stays. -/
def Strips (o : Overlays) (k : Key) (result : Option Version × Overlays) : Prop :=
  result = (none, o) ∨ ∃ log rest, o.get? k = some log ∧ rest.Sublist log.pending ∧
    result = (some (o.settle k ⟨log.base, rest⟩).1, (o.settle k ⟨log.base, rest⟩).2)

/-- Taking a write back leaves the base as it is. -/
theorem strips_rollback (write : Nat) (o : Overlays) (k : Key) :
    o.Strips k (o.rollback write k) := by
  unfold rollback
  cases hlog : o.get? k with
  | none => exact Or.inl rfl
  | some log =>
      simp only [List.partition_eq_filter_filter]
      split
      · exact Or.inl rfl
      · exact Or.inr ⟨log, _, hlog, List.filter_sublist, rfl⟩

/-- What is taken out of the log of one key is in no other. -/
theorem Clears.get?_ne (h : Clears write o k result) (hk : k' ≠ k) :
    result.2.get? k' = o.get? k' := by
  rcases h with ⟨rfl, -⟩ | ⟨o₀, log, base, rest, hagrees, -, -, rfl⟩
  · rfl
  · rw [get?_settle, if_neg hk, hagrees.get]

end Overlays

namespace Session

variable {s s' : Session} {k k' : Key} {anchor : Option Version} {first : Nat}

/-- The data of a key is the anchor, or the anchor lies under edits of writes no older than the
first. -/
inductive Anchored (s : Session) (k : Key) (anchor : Option Version) (first : Nat) : Prop
  | bare (hlog : s.overlays.get? k = none) (hdata : s.dataAt k = anchor)
  | based {log : Overlay} (hlog : s.overlays.get? k = some log) (hbase : some log.base = anchor)
      (hshown : (s.dataAt k).isSome) (hlater : ∀ p ∈ log.pending, first ≤ p.write)

/-- What happens elsewhere does not matter. -/
theorem Anchored.of_same (h : s.Anchored k anchor first)
    (hget : s'.overlays.get? k = s.overlays.get? k) (hdata : s'.dataAt k = s.dataAt k) :
    s'.Anchored k anchor first := by
  cases h with
  | bare hlog hbare => exact .bare (hget.trans hlog) (hdata.trans hbare)
  | based hlog hbase hshown hlater =>
      exact .based (hget.trans hlog) hbase (by rw [hdata]; exact hshown) hlater

/-- What leaves data and overlays alone leaves the anchor. -/
theorem Anchored.shows (h : s.Anchored k anchor first) (hshows : s.Shows s') :
    s'.Anchored k anchor first :=
  h.of_same (hshows.overlays.get k) (hshows.data k)

/-- What is displayed at another key leaves the anchor. -/
theorem Anchored.display_ne (h : s.Anchored k anchor first) (hk : k ≠ k') {overlays : Overlays}
    (hget : overlays.get? k = s.overlays.get? k) (data : Version) :
    (({ s with overlays := overlays } : Session).display k' data).Anchored k anchor first := by
  refine h.of_same hget ?_
  rw [dataAt_display, if_neg hk]
  rfl

/-- Where edits are laid the anchor is what was shown, or the base that was there. -/
theorem Anchored.lay (h : s.Anchored k anchor first) {write : Nat} (hwrite : first ≤ write)
    {shown : Version} (hshown : s.dataAt k' = some shown) (edit : Edit) :
    (({ s with overlays := (s.overlays.apply write k' shown edit).2 } : Session).display k'
      (s.overlays.apply write k' shown edit).1).Anchored k anchor first := by
  have hget := s.overlays.get?_apply write k' shown edit k
  by_cases hk : k = k'
  · subst hk
    obtain ⟨e, hread⟩ := read_of_dataAt hshown
    have hlaid := hget.trans (if_pos rfl)
    have hthere : (({ s with overlays := (s.overlays.apply write k shown edit).2 } :
        Session).display k (s.overlays.apply write k shown edit).1).dataAt k =
          some (s.overlays.apply write k shown edit).1 := by
      rw [dataAt_display, if_pos rfl]
      exact congrArg (Option.map fun _ => _) hread
    have hbase : some (s.overlays.logOn k shown).base = anchor ∧
        ∀ p ∈ (s.overlays.logOn k shown).pending, first ≤ p.write := by
      unfold Overlays.logOn
      cases h with
      | bare hlog hdata =>
          rw [hlog]
          exact ⟨hshown.symm.trans hdata, nofun⟩
      | based hlog hbase _ hlater =>
          rw [hlog]
          exact ⟨hbase, hlater⟩
    refine .based hlaid hbase.1 (by rw [hthere]; rfl) fun p hp => ?_
    rcases List.mem_append.mp hp with hold | hnew
    · exact hbase.2 p hold
    · obtain rfl := List.mem_singleton.mp hnew
      exact hwrite
  · exact h.display_ne hk (hget.trans (if_neg hk)) _

/-- Edits of a later write are laid over the anchor. -/
theorem Anchored.layEdits (h : s.Anchored k anchor first) {write : Nat} (hwrite : first ≤ write)
    (edits : List SpeculativeEdit) : (s.layEdits write edits).2.Anchored k anchor first := by
  induction edits generalizing s with
  | nil => exact h
  | cons e rest ih =>
      unfold Session.layEdits
      cases hshown : s.dataAt e.target with
      | none => exact ih h
      | some shown => exact ih (h.lay hwrite hshown e.edit)

/-- A write that begins leaves the anchor. -/
theorem Anchored.beginWrite (h : s.Anchored k anchor first) (hnext : first ≤ s.nextWrite)
    (edits : List SpeculativeEdit) : (s.beginWrite edits).2.Anchored k anchor first := by
  have hcounted : Anchored { s with nextWrite := s.nextWrite + 1 } k anchor first :=
    h.of_same rfl rfl
  exact (hcounted.layEdits hnext edits).shows (shows_foldl shows_publish _ _)

/-- **Where the last edit is taken out of the log, the anchor is shown again.** -/
theorem Anchored.strip (h : s.Anchored k anchor first) {result : Option Version × Overlays}
    (hstrips : s.overlays.Strips k result) :
    (match result.1 with
      | none => ({ s with overlays := result.2 } : Session)
      | some data => ({ s with overlays := result.2 } : Session).display k data).Anchored
        k anchor first := by
  rcases hstrips with rfl | ⟨log, rest, hlog, hrest, rfl⟩
  · exact h.of_same rfl rfl
  · cases h with
    | bare hnone => cases hnone.symm.trans hlog
    | based hlog' hbase hshown hlater =>
        obtain rfl := Option.some.inj (hlog.symm.trans hlog')
        obtain ⟨v, hv⟩ := Option.isSome_iff_exists.mp hshown
        obtain ⟨e, hread⟩ := read_of_dataAt hv
        have hget := s.overlays.get?_settle k ⟨log.base, rest⟩ k
        rw [if_pos rfl] at hget
        have hthere : (({ s with overlays := (s.overlays.settle k ⟨log.base, rest⟩).2 } :
            Session).display k (s.overlays.settle k ⟨log.base, rest⟩).1).dataAt k =
              some (s.overlays.settle k ⟨log.base, rest⟩).1 := by
          rw [dataAt_display, if_pos rfl]
          exact congrArg (Option.map fun _ => _) hread
        by_cases hempty : rest = []
        · rw [if_pos hempty] at hget
          refine .bare hget (hthere.trans ?_)
          rw [Overlays.settle_of_empty _ k hempty]
          exact hbase
        · rw [if_neg hempty] at hget
          exact .based hget hbase (by rw [hthere]; rfl) fun p hp => hlater p (hrest.subset hp)

/-- The edits of a write are settled at some keys, and at the one that matters at most taken out. -/
theorem Anchored.settleEdits (h : s.Anchored k anchor first) {write : Nat}
    {settle : Overlays → Key → Option Version × Overlays}
    (hclears : ∀ o k, Overlays.Clears write o k (settle o k)) {keys : List Key}
    (hstrips : k ∈ keys → ∀ o : Overlays,
      (∀ log, o.get? k = some log → ∀ p ∈ log.pending, first ≤ p.write) →
        o.Strips k (settle o k)) :
    (s.settleEdits settle keys).2.Anchored k anchor first := by
  induction keys generalizing s with
  | nil => exact h
  | cons k' rest ih =>
      have hrest : ∀ {s : Session}, s.Anchored k anchor first →
          (s.settleEdits settle rest).2.Anchored k anchor first :=
        fun h => ih h fun hk => hstrips (List.mem_cons_of_mem k' hk)
      have hone : (match (settle s.overlays k').1 with
          | none => ({ s with overlays := (settle s.overlays k').2 } : Session)
          | some data => ({ s with overlays := (settle s.overlays k').2 } : Session).display k'
            data).Anchored k anchor first := by
        by_cases hk : k = k'
        · subst hk
          refine h.strip (hstrips List.mem_cons_self s.overlays fun log hlog => ?_)
          cases h with
          | bare hnone => cases hnone.symm.trans hlog
          | based hlog' _ _ hlater =>
              obtain rfl := Option.some.inj (hlog.symm.trans hlog')
              exact hlater
        · have hget := (hclears s.overlays k').get?_ne hk
          cases (settle s.overlays k').1 with
          | none => exact h.of_same hget rfl
          | some data => exact h.display_ne hk hget data
      unfold Session.settleEdits
      cases hresult : settle s.overlays k' with
      | mk shown overlays =>
          rw [hresult] at hone
          cases shown with
          | none => exact hrest hone
          | some data => exact hrest hone

/-- A write that is taken back leaves the anchor, or brings it back. -/
theorem Anchored.withdraw (h : s.Anchored k anchor first) (w : Write) :
    (s.withdraw w).Anchored k anchor first :=
  (h.settleEdits (Overlays.clears_rollback w.id)
    fun _ o _ => Overlays.strips_rollback w.id o k).shows (shows_foldl shows_publish _ _)

/-- A write that is confirmed has nothing to do with the key, or is older than its edits. -/
theorem Anchored.settleWrite (h : s.Anchored k anchor first) {w : Write}
    (hother : first ≤ w.id → k ∉ w.targets) (response : Json) :
    (s.settleWrite w response).Anchored k anchor first := by
  refine (h.settleEdits (fun o k => Overlays.clears_commit w.id response o k) ?_).shows
    (shows_foldl shows_publish _ _)
  intro hk o hlater
  left
  refine Overlays.commit_of_none (fun log hlog p hp heq => ?_) response
  have hle := hlater log hlog p hp
  rw [heq] at hle
  exact hother hle hk

/-- An answer for another key, or of an older generation, is not stored at this one. -/
theorem Anchored.store (h : s.Anchored k anchor first) {f : Fetch} (hcounts : s.counts k f = false)
    (now : Nat) (value : Json) : (s.store now f value).2.Anchored k anchor first := by
  have hminted := Overlays.agrees_mint s.overlays value
  by_cases hgen : s.generation = f.generation
  · have hk : k ≠ f.key := by
      rintro rfl
      rw [counts_self hgen.symm] at hcounts
      cases hcounts
    refine h.of_same ?_ ((dataAt_store hgen now value k).trans (if_neg hk))
    rw [overlays_store hgen now value]
    unfold Overlays.rebase
    split
    · exact hminted.get k
    · rw [Overlays.get?_settle, if_neg hk, hminted.get]
  · rw [store_older hgen]
    exact h.of_same (hminted.get k) rfl

/-- Without an entry there is no data. -/
theorem dataAt_of_absent (h : s.read k = none) : s.dataAt k = none := by
  unfold dataAt
  rw [h]
  rfl

/-- Without an entry there is nothing to lose. -/
theorem Anchored.of_absent (h : s.Anchored k anchor first) (hread : s.read k = none)
    (hlog : s'.overlays.get? k = none) (hdata : s'.dataAt k = none) :
    s'.Anchored k anchor first := by
  cases h with
  | bare _ hbare => exact .bare hlog (hdata.trans ((dataAt_of_absent hread).symm.trans hbare))
  | based _ _ hshown =>
      rw [dataAt_of_absent hread] at hshown
      cases hshown

/-! ## What is not shown -/

/-- What is known of the calls besides the data shown. -/
structure Standing where
  entries : Key → Option Entry
  keep : Nat
  tagging : Tagging
  flights : Flights
  fetches : Std.ExtTreeMap Nat Fetch

def standing (s : Session) : Standing where
  entries := fun k => (s.read k).map fun e => { e with data := none }
  keep := s.cache.keep
  tagging := s.tagging
  flights := s.flights
  fetches := s.fetches

/-- Displaying a version changes nothing but the data. -/
theorem standing_display (s : Session) (k : Key) (data : Version) :
    (s.display k data).standing = s.standing := by
  have hentries : ∀ k', ((s.display k data).read k').map (fun e => { e with data := none }) =
      (s.read k').map fun e => { e with data := none } := by
    intro k'
    unfold display
    rw [read_alter]
    split
    · rename_i hk
      rw [hk]
      cases s.read k <;> rfl
    · rfl
  unfold standing
  rw [Standing.mk.injEq]
  exact ⟨funext hentries, Cache.keep_write s.cache k _, rfl, rfl, rfl⟩

/-- Sending updates changes nothing of what is known. -/
theorem standing_publishes (l : List Key) (s : Session) :
    (l.foldl publish s).standing = s.standing := by
  induction l generalizing s with
  | nil => rfl
  | cons k l ih => exact ih (s.publish k)

/-- A write that begins changes nothing of what is known. -/
theorem standing_beginWrite (s : Session) (edits : List SpeculativeEdit) :
    (s.beginWrite edits).2.standing = s.standing := by
  have hlaid : ∀ (s : Session) (write : Nat),
      (s.layEdits write edits).2.standing = s.standing := by
    intro s write
    induction edits generalizing s with
    | nil => rfl
    | cons e rest ih =>
        unfold layEdits
        cases s.dataAt e.target with
        | none => exact ih s
        | some shown => exact (ih _).trans (standing_display _ _ _)
  exact (standing_publishes _ _).trans (hlaid _ _)

/-- A write that is taken back changes nothing of what is known. -/
theorem standing_withdraw (s : Session) (w : Write) : (s.withdraw w).standing = s.standing :=
  (standing_publishes _ _).trans
    (same_settleEdits (fun _ _ => rfl) standing_display _ w.targets s)

/-- Whether an entry is stale has nothing to do with the data it shows. -/
theorem isStale_of_standing (h : s'.standing = s.standing) (k : Key) (now : Nat) :
    s'.cache.isStale k now = s.cache.isStale k now := by
  have hentry : (s'.read k).map (fun e => { e with data := none }) =
      (s.read k).map fun e => { e with data := none } :=
    congrFun (congrArg Standing.entries h) k
  have hkeep : s'.cache.keep = s.cache.keep := congrArg Standing.keep h
  have hstale : ∀ s : Session, s.cache.isStale k now =
      (((s.read k).map fun e => { e with data := none }).map fun e =>
        e.isStale now s.cache.keep).getD true := by
    intro s
    unfold Cache.isStale read
    cases s.cache.read k <;> rfl
  rw [hstale s', hstale s, hentry, hkeep]

end Session

namespace Situation

variable {p : Situation} {k : Key} {anchor : Option Version} {first : Nat} {idField : String}

/-! ## A key that is left alone -/

/-- The event does not drop the entry, stores no answer there, and confirms no write that aims at it
and is no older than the first. -/
structure LeavesAlone (p : Situation) (k : Key) (first now : Nat) (e : Event) : Prop where
  kept : (p.session.read k).isSome → ((p.step now e).session.read k).isSome
  unanswered : p.stores k e = none
  unconfirmed : ∀ write response u, e = .confirm write response → p.writes[write]? = some u →
    first ≤ write → k ∉ u.write.targets

/-- Numbers of writes are only counted up. -/
theorem nextWrite_step (p : Situation) (now : Nat) (e : Event) :
    p.session.nextWrite ≤ (p.step now e).session.nextWrite := by
  cases turned_step p now e with
  | still hshows => exact Nat.le_of_eq hshows.nextWrite.symm
  | stored hshows =>
      exact Nat.le_of_eq (hshows.nextWrite.trans (Session.nextWrite_store _ _ _ _)).symm
  | dropped hshows =>
      exact Nat.le_of_eq (hshows.nextWrite.trans (Session.nextWrite_forgets _ _)).symm
  | emptied hshows => exact Nat.le_of_eq hshows.nextWrite.symm
  | begun hshows =>
      have hnext := hshows.nextWrite.trans (Session.nextWrite_beginWrite _ _)
      omega
  | confirmed _ hshows =>
      exact Nat.le_of_eq (hshows.nextWrite.trans (Session.nextWrite_settleWrite _ _ _)).symm
  | withdrawn _ hshows =>
      exact Nat.le_of_eq (hshows.nextWrite.trans (Session.nextWrite_withdraw _ _)).symm

/-- **The anchor of a key stays as long as the key is left alone.** -/
theorem anchored_step (hlayered : p.Layered idField) (h : p.session.Anchored k anchor first)
    (hfirst : first ≤ p.session.nextWrite) {now : Nat} {e : Event}
    (halone : p.LeavesAlone k first now e) :
    (p.step now e).session.Anchored k anchor first := by
  obtain ⟨hkept, hunanswered, hunconfirmed⟩ := halone
  have hlost : (p.step now e).session.read k = none → p.session.read k = none := by
    intro hgone
    cases hread : p.session.read k with
    | none => rfl
    | some e' =>
        have hthere := hkept (by rw [hread]; rfl)
        rw [hgone] at hthere
        cases hthere
  cases turned_step p now e with
  | still hshows => exact h.shows hshows
  | @stored _ _ flight f value hshows _ hair =>
      refine (h.store ?_ _ _).shows hshows
      simp only [stores, hair] at hunanswered
      cases hcounts : p.session.counts k f with
      | false => rfl
      | true =>
          rw [hcounts] at hunanswered
          cases hunanswered
  | @dropped _ _ l hshows _ hread =>
      have hget := (hshows.overlays.get k).trans (Session.get?_forgets l _ k)
      have hdrop := hread k
      split at hdrop
      · rename_i hk
        rw [if_pos hk] at hget
        exact h.of_absent (hlost hdrop) hget (Session.dataAt_of_absent hdrop)
      · rename_i hk
        rw [if_neg hk] at hget
        refine h.of_same hget ?_
        unfold Session.dataAt
        rw [hdrop]
  | emptied hshows =>
      have hgone : (p.step now .reset).session.read k = none := Session.read_reset p.session k
      refine h.of_absent (hlost hgone) ?_ (Session.dataAt_of_absent hgone)
      rw [hshows.overlays.get]
      simp [Session.reset, Overlays.clear, Overlays.get?]
  | begun hshows => exact (h.beginWrite hfirst _).shows hshows
  | @confirmed _ write u response hwrite hshows =>
      have hid := (hlayered.ids write u hwrite).1
      refine (h.settleWrite (fun hle => ?_) response).shows hshows
      exact hunconfirmed write response u rfl hwrite (hid ▸ hle)
  | withdrawn _ hshows => exact (h.withdraw _).shows hshows

/-- Every event of the one history, coming after the other, leaves the key alone. -/
def Undisturbed (setup : Setup) (k : Key) (first : Nat) (earlier : History) : History → Prop
  | [] => True
  | (now, e) :: since => (after setup (since ++ earlier)).LeavesAlone k first now e ∧
      Undisturbed setup k first earlier since

/-- The anchor holds as long as the key is left undisturbed. -/
theorem anchored_since {setup : Setup} {earlier since : History}
    (h : (after setup earlier).session.Anchored k anchor first)
    (hfirst : first ≤ (after setup earlier).session.nextWrite)
    (halone : Undisturbed setup k first earlier since) :
    (after setup (since ++ earlier)).session.Anchored k anchor first ∧
      first ≤ (after setup (since ++ earlier)).session.nextWrite := by
  induction since with
  | nil => exact ⟨h, hfirst⟩
  | cons event since ih =>
      obtain ⟨hevent, hbefore⟩ := halone
      obtain ⟨hanchored, hnext⟩ := ih hbefore
      exact ⟨anchored_step (layered_after setup (since ++ earlier)) hanchored hnext hevent,
        Nat.le_trans hnext (nextWrite_step _ event.1 event.2)⟩

/-- Where no write waits that began since, no edit is left and the anchor is shown. -/
theorem restored_of_anchored (hlayered : p.Layered idField) (h : p.session.Anchored k anchor first)
    (hnone : ∀ write u, p.writes[write]? = some u → first ≤ write → k ∉ u.write.targets) :
    p.session.overlays.get? k = none ∧ p.session.dataAt k = anchor := by
  cases h with
  | bare hlog hdata => exact ⟨hlog, hdata⟩
  | based hlog _ _ hlater =>
      obtain ⟨hpending, -, -, hwaits⟩ := hlayered.layers.layer k _ hlog
      obtain ⟨pending, hmem⟩ := List.exists_mem_of_ne_nil _ hpending
      obtain ⟨u, hu, hk⟩ := hwaits pending hmem
      exact absurd hk (hnone pending.write u hu (hlater pending hmem))

/-! ## The events of a failing write -/

/-- A write begins, is given up or is cancelled. -/
inductive Failing : Event → Prop
  | begins (mutation : Mutation) (args : Json) (edits : List SpeculativeEdit) :
      Failing (.write mutation args edits)
  | givenUp (write : Nat) (failure : Failure) : Failing (.giveUp write failure)
  | cancelled (write : Nat) : Failing (.cancel write)

/-- The events of a failing write change nothing but the data. -/
theorem standing_step (p : Situation) (now : Nat) {e : Event} (hfailing : Failing e) :
    (p.step now e).session.standing = p.session.standing := by
  cases hfailing with
  | begins mutation args edits => exact p.session.standing_beginWrite edits
  | givenUp write failure =>
      simp only [step]
      cases p.writes[write]? with
      | none => rfl
      | some u => exact p.session.standing_withdraw u.write
  | cancelled write =>
      simp only [step]
      cases p.writes[write]? with
      | none => rfl
      | some u => exact p.session.standing_withdraw u.write

/-- **A write that fails leaves no trace.**  A key without pending edits that is left alone from the
beginning of a write on shows the very version it showed before, once none of the writes that began
since and aim at it waits any more.  And neither the beginning nor the end of a write that fails
changes anything of an entry but the data shown, or declares anything stale. -/
theorem failed_writes_undone (setup : Setup) (h : History) (now : Nat) (mutation : Mutation)
    (args : Json) (edits : List SpeculativeEdit) :
    (∀ (k : Key) (since : History), (after setup h).session.overlays.get? k = none →
      Undisturbed setup k (after setup h).session.nextWrite
        ((now, .write mutation args edits) :: h) since →
      (∀ write u, (after setup (since ++ (now, .write mutation args edits) :: h)).writes[write]? =
        some u → (after setup h).session.nextWrite ≤ write → k ∉ u.write.targets) →
      (after setup (since ++ (now, .write mutation args edits) :: h)).session.overlays.get? k =
          none ∧
        (after setup (since ++ (now, .write mutation args edits) :: h)).session.dataAt k =
          (after setup h).session.dataAt k) ∧
    ∀ (p : Situation) (later : Nat) (e : Event), Failing e →
      (p.step later e).session.standing = p.session.standing ∧
      (∀ k t, (p.step later e).session.cache.isStale k t = p.session.cache.isStale k t) ∧
      p.declares e = ∅ := by
  constructor
  · intro k since hlog halone hnone
    have hbefore : (after setup h).session.Anchored k ((after setup h).session.dataAt k)
        (after setup h).session.nextWrite := .bare hlog rfl
    have hbegins : (after setup h).LeavesAlone k (after setup h).session.nextWrite now
        (.write mutation args edits) := by
      refine ⟨fun hthere => ?_, rfl, nofun⟩
      have hentry := congrFun (congrArg Session.Standing.entries
        (standing_step (after setup h) now (.begins mutation args edits))) k
      have hsome := congrArg Option.isSome hentry
      simp only [Session.standing, Option.isSome_map] at hsome
      exact hsome.trans hthere
    have hbegun : (after setup ((now, .write mutation args edits) :: h)).session.Anchored k
        ((after setup h).session.dataAt k) (after setup h).session.nextWrite :=
      anchored_step (layered_after setup h) hbefore (Nat.le_refl _) hbegins
    have hnext := nextWrite_step (after setup h) now (.write mutation args edits)
    have hsince := anchored_since hbegun hnext halone
    exact restored_of_anchored (layered_after setup _) hsince.1 hnone
  · intro p later e hfailing
    have hstanding := standing_step p later hfailing
    refine ⟨hstanding, fun k t => Session.isStale_of_standing hstanding k t, ?_⟩
    cases hfailing <;> rfl

/-- The messages are watched and loaded. -/
def opened : History := [(0, .land 0 (.ok (inbox false))), (0, .subscribe "getMessages" .null)]

/-- The message is marked as read and taken away, and a class goes too, of which nothing is known. -/
def tidied : Nat × Event :=
  (10, .write Classroom.markMessageRead .null [
    ⟨inboxKey, .update (.num (.int 7)) (.ofFields [("is_read", .bool true)])⟩,
    ⟨Classroom.classesKey, .delete (.num (.int 1))⟩,
    ⟨inboxKey, .delete (.num (.int 7))⟩])

/-- Another message is added meanwhile; then the first write is cancelled and the second refused. -/
def refusedBoth : History :=
  [(40, .giveUp 2 (.refused 500 none)), (30, .cancel 1),
    (20, .write Classroom.markMessageRead .null
      [⟨inboxKey, .insert (.ofFields [("id", .num (.int 8))]) .front⟩])]

/-- Two writes overlap at one key and both fail; the version from before them is back. -/
theorem failed_writes_undone_overlapping :
    (after classroom opened).session.overlays.get? inboxKey = none ∧
    (after classroom (tidied :: opened)).session.dataAt inboxKey = some ⟨2, .arr []⟩ ∧
    (after classroom (refusedBoth ++ tidied :: opened)).session.dataAt inboxKey =
      (after classroom opened).session.dataAt inboxKey ∧
    (after classroom opened).session.dataAt inboxKey = some ⟨0, inbox false⟩ := by
  have hfacts : ((after classroom opened).session.overlays.get? inboxKey = none ∧
      (after classroom opened).session.dataAt inboxKey = some ⟨0, inbox false⟩ ∧
      (after classroom (tidied :: opened)).session.dataAt inboxKey = some ⟨2, .arr []⟩) ∧
      (∀ n < 3, ((after classroom (refusedBoth.drop n ++ tidied :: opened)).session.read
        inboxKey).isSome = true) ∧
      (after classroom (refusedBoth ++ tidied :: opened)).writes.isEmpty = true := by
    decide +kernel
  obtain ⟨⟨hlog, hbefore, hmeanwhile⟩, hthere, hdone⟩ := hfacts
  have halone : Undisturbed classroom inboxKey (after classroom opened).session.nextWrite
      (tidied :: opened) refusedBoth :=
    ⟨⟨fun _ => hthere 0 (by decide), rfl, nofun⟩, ⟨fun _ => hthere 1 (by decide), rfl, nofun⟩,
      ⟨fun _ => hthere 2 (by decide), rfl, nofun⟩, trivial⟩
  have hrestored := (failed_writes_undone classroom opened 10 Classroom.markMessageRead .null _).1
    inboxKey refusedBoth hlog halone fun write u hu => by
      rw [show (10, _) :: opened = tidied :: opened from rfl,
        Std.ExtTreeMap.isEmpty_iff.mp hdone] at hu
      simp at hu
  exact ⟨hlog, hmeanwhile, hrestored.2, hbefore⟩

end Situation

end QueryCache
