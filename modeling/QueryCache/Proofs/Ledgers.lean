import QueryCache.Proofs.Restoration
import QueryCache.Proofs.Retraction
/-!
# The ledger of a key along a history

As long as data is shown at a key, the overlays keep a ledger of it: a base and the edits that are
pending on it.  Whatever happens to the session is for the ledger a row of turns, and each of these
is of the write that the event begins or ends, or of none (`keeps_step`).  So the edits of a write that
waits stay as they were laid, however many others come and go (`own_since`), until the write is
confirmed and they are made part of the base.
-/

namespace QueryCache

namespace Ledger

variable {idField : String} {l : Ledger} {write : Nat}

/-- A turn of another write, or of none, leaves the edits of a write. -/
theorem own_turn {t : Turn} (h : t.write? ≠ some write) :
    (l.turn idField t).own write = l.own write := by
  cases t with
  | apply n edit =>
      have hother : n ≠ write := fun heq => h (congrArg some heq)
      simp [turn, own, hother]
  | commit n response => exact own_without fun heq => h (congrArg some heq.symm)
  | rollback n => exact own_without fun heq => h (congrArg some heq.symm)
  | rebase fetched => rfl

theorem run_cons (t : Turn) (turns : List Turn) :
    l.run idField (t :: turns) = (l.turn idField t).run idField turns := rfl

/-- The turns of others leave the edits of a write as they are. -/
theorem own_run {turns : List Turn} (h : ∀ t ∈ turns, t.write? ≠ some write) :
    (l.run idField turns).own write = l.own write := by
  induction turns generalizing l with
  | nil => rfl
  | cons t rest ih =>
      rw [run_cons, ih fun t ht => h t (List.mem_cons_of_mem _ ht)]
      exact own_turn (h t List.mem_cons_self)

/-- All edits that a write lays are its own. -/
theorem own_applied (edits : List Edit) :
    (l.run idField (edits.map (Turn.apply write))).own write =
      l.own write ++ edits.map (PendingEdit.mk write) := by
  induction edits generalizing l with
  | nil => simp [run]
  | cons e rest ih =>
      rw [List.map_cons, run_cons, ih]
      simp [turn, own]

end Ledger

theorem Showing.turn_apply (d : Showing) (k : Key) (write : Nat) (e : Edit) :
    d.turn k (.apply write e) =
      ⟨(d.overlays.apply write k d.shown e).2, (d.overlays.apply write k d.shown e).1⟩ := rfl

theorem Showing.turn_rebase (d : Showing) (k : Key) (fetched : Version) :
    d.turn k (.rebase fetched) =
      ⟨(d.overlays.rebase k fetched).2, (d.overlays.rebase k fetched).1⟩ := rfl

namespace Session

variable {s s' : Session} {k k' : Key} {idField : String} {waits : Nat → Key → Prop} {l : Ledger}

/-- Data is shown at a key, and the overlays keep this ledger of it. -/
def Keeps (s : Session) (k : Key) (idField : String) (l : Ledger) : Prop :=
  ∃ v, s.dataAt k = some v ∧ Showing.Keeps ⟨s.overlays, v⟩ k idField l

/-- What happens elsewhere does not matter. -/
theorem Keeps.of_same (h : s.Keeps k idField l)
    (hidField : s'.overlays.idField = s.overlays.idField)
    (hget : s'.overlays.get? k = s.overlays.get? k) (hdata : s'.dataAt k = s.dataAt k) :
    s'.Keeps k idField l := by
  obtain ⟨v, hv, hfield, hbase, hpending, hshown⟩ := h
  have hoverlay : Showing.overlay ⟨s'.overlays, v⟩ k = Showing.overlay ⟨s.overlays, v⟩ k := by
    simp only [Showing.overlay, Overlays.logOn, hget]
  exact ⟨v, hdata.trans hv, hidField.trans hfield, by rw [hoverlay]; exact hbase,
    by rw [hoverlay]; exact hpending, hshown⟩

/-- What leaves data and overlays alone leaves the ledger. -/
theorem Keeps.shows (h : s.Keeps k idField l) (hshows : s.Shows s') : s'.Keeps k idField l :=
  h.of_same hshows.overlays.idField (hshows.overlays.get k) (hshows.data k)

theorem Keeps.data (h : s.Keeps k idField l) : (s.dataAt k).isSome := by
  obtain ⟨v, hv, -⟩ := h
  exact Option.isSome_of_eq_some hv

/-- Where data is shown there is a ledger, and the edits pending in it are of writes that wait. -/
theorem exists_keeps (h : s.Layers idField waits) {v : Version} (hdata : s.dataAt k = some v) :
    ∃ l, s.Keeps k idField l ∧ ∀ p ∈ l.pending, waits p.write k := by
  obtain ⟨hvalue, -, hwaits⟩ := h.logOn hdata
  refine ⟨⟨(s.overlays.logOn k v).base.value, (s.overlays.logOn k v).pending⟩,
    ⟨v, hdata, h.idField, rfl, rfl, ?_⟩, hwaits⟩
  rw [← h.idField]
  exact hvalue

/-- The edits pending in a ledger are of writes that wait. -/
theorem Keeps.pending_waits (h : s.Keeps k idField l) (hlayers : s.Layers idField waits) :
    ∀ p ∈ l.pending, waits p.write k := by
  obtain ⟨v, hv, hkeeps⟩ := h
  rw [← hkeeps.pending]
  exact (hlayers.logOn hv).2.2

/-- Other data is shown at a key, with the overlays that go with it. -/
theorem Keeps.display (h : s.Keeps k idField l) {overlays : Overlays} {shown : Version}
    {l' : Ledger} (hkeeps : Showing.Keeps ⟨overlays, shown⟩ k idField l') :
    (({ s with overlays := overlays } : Session).display k shown).Keeps k idField l' := by
  obtain ⟨v, hv, -⟩ := h
  obtain ⟨e, hread⟩ := read_of_dataAt hv
  refine ⟨shown, ?_, hkeeps⟩
  rw [dataAt_display, if_pos rfl]
  exact congrArg (Option.map fun _ => _) hread

/-- What is displayed at another key leaves the ledger. -/
theorem Keeps.display_ne (h : s.Keeps k idField l) (hk : k ≠ k') (overlays : Overlays)
    (hidField : overlays.idField = s.overlays.idField)
    (hget : overlays.get? k = s.overlays.get? k) (data : Version) :
    (({ s with overlays := overlays } : Session).display k' data).Keeps k idField l := by
  refine h.of_same hidField hget ?_
  rw [dataAt_display, if_neg hk]
  rfl

/-! ## Laying edits -/

/-- The edits that are laid at a key. -/
def editsAt (k : Key) (edits : List SpeculativeEdit) : List Edit :=
  (edits.filter fun e => e.target = k).map SpeculativeEdit.edit

/-- An edit that is laid at the key is one turn. -/
theorem Keeps.lay (h : s.Keeps k idField l) {v : Version} (hv : s.dataAt k = some v)
    (write : Nat) (e : Edit) :
    (({ s with overlays := (s.overlays.apply write k v e).2 } : Session).display k
      (s.overlays.apply write k v e).1).Keeps k idField (l.turn idField (.apply write e)) := by
  obtain ⟨v', hv', hkeeps⟩ := id h
  obtain rfl := Option.some.inj (hv.symm.trans hv')
  have hlaid := Showing.keeps_apply hkeeps write e
  rw [Showing.turn_apply] at hlaid
  exact h.display hlaid

/-- Of a row of edits those at the key are a turn each. -/
theorem Keeps.layEdits (h : s.Keeps k idField l) (write : Nat) (edits : List SpeculativeEdit) :
    (s.layEdits write edits).2.Keeps k idField
      (l.run idField ((editsAt k edits).map (Turn.apply write))) := by
  induction edits generalizing s l with
  | nil => exact h
  | cons e rest ih =>
      unfold Session.layEdits
      by_cases hk : e.target = k
      · subst hk
        have hedits : editsAt e.target (e :: rest) = e.edit :: editsAt e.target rest := by
          simp [editsAt]
        obtain ⟨v, hv⟩ := Option.isSome_iff_exists.mp h.data
        rw [hedits, List.map_cons, Ledger.run_cons, hv]
        exact ih (h.lay hv write e.edit)
      · have hedits : editsAt k (e :: rest) = editsAt k rest := by simp [editsAt, hk]
        rw [hedits]
        cases hshown : s.dataAt e.target with
        | none => exact ih h
        | some shown =>
            have hget : (s.overlays.apply write e.target shown e.edit).2.get? k =
                s.overlays.get? k :=
              (s.overlays.get?_apply write e.target shown e.edit k).trans (if_neg (Ne.symm hk))
            have hlaid := h.display_ne (Ne.symm hk)
              (s.overlays.apply write e.target shown e.edit).2 rfl hget
            exact ih (hlaid _)

/-- A write begins with the turns of its edits. -/
theorem Keeps.beginWrite (h : s.Keeps k idField l) (edits : List SpeculativeEdit) :
    (s.beginWrite edits).2.Keeps k idField
      (l.run idField ((editsAt k edits).map (Turn.apply s.nextWrite))) := by
  have hcounted : Keeps { s with nextWrite := s.nextWrite + 1 } k idField l := h.of_same rfl rfl rfl
  exact (hcounted.layEdits s.nextWrite edits).shows (shows_foldl shows_publish _ _)

/-! ## Settling edits -/

/-- An operation that takes the edits of a write out of the log of a key is one turn for the ledger
of that key, which made once more does nothing. -/
structure Settles (idField : String) (write : Nat)
    (settle : Overlays → Key → Option Version × Overlays) (t : Turn) : Prop where
  clears : ∀ o k, Overlays.Clears write o k (settle o k)
  turn : ∀ (d : Showing) (k : Key), d.turn k t = d.become (settle d.overlays k)
  twice : ∀ l : Ledger, (l.turn idField t).turn idField t = l.turn idField t

/-- Taking a write back is the turn of that name. -/
theorem settles_rollback (idField : String) (write : Nat) :
    Settles idField write (fun o k => o.rollback write k) (.rollback write) where
  clears := Overlays.clears_rollback write
  turn := fun _ _ => rfl
  twice := fun _ => Ledger.without_without

/-- Confirming a write is the turn of that name. -/
theorem settles_commit (idField : String) (write : Nat) (response : Json) :
    Settles idField write (fun o k => o.commit write k response) (.commit write response) where
  clears := Overlays.clears_commit write response
  turn := fun _ _ => rfl
  twice := by
    intro l
    have hown : (l.turn idField (.commit write response)).own write = [] := by
      simp [Ledger.turn, Ledger.own, Ledger.without, List.filter_filter]
    generalize l.turn idField (.commit write response) = l' at hown ⊢
    simp only [Ledger.turn, Showing.settledBase_of_own hown, Showing.without_of_own hown]

/-- A write that is settled at another key leaves the ledger. -/
theorem Keeps.settle_ne (h : s.Keeps k idField l) {write : Nat}
    {result : Option Version × Overlays} (hclears : Overlays.Clears write s.overlays k' result)
    (hk : k ≠ k') : (match result.1 with
      | none => ({ s with overlays := result.2 } : Session)
      | some data => ({ s with overlays := result.2 } : Session).display k' data).Keeps
        k idField l := by
  have hget := hclears.get?_ne hk
  have hidField : result.2.idField = s.overlays.idField := by
    rcases hclears with ⟨rfl, -⟩ | ⟨o, log, base, rest, hagrees, -, -, rfl⟩
    · rfl
    · rw [Overlays.idField_settle, hagrees.idField]
  cases result.1 with
  | none => exact h.of_same hidField hget rfl
  | some data => exact h.display_ne hk _ hidField hget data

/-- A write that is settled at the key is one turn. -/
theorem Keeps.settle (h : s.Keeps k idField l) {write : Nat}
    {settle : Overlays → Key → Option Version × Overlays} {t : Turn}
    (hsettles : Settles idField write settle t) : (match (settle s.overlays k).1 with
      | none => ({ s with overlays := (settle s.overlays k).2 } : Session)
      | some data => ({ s with overlays := (settle s.overlays k).2 } : Session).display k
          data).Keeps k idField (l.turn idField t) := by
  obtain ⟨v, hv, hkeeps⟩ := id h
  have hturn := Showing.keeps_turn hkeeps t
  rw [hsettles.turn] at hturn
  simp only [Showing.become] at hturn
  cases hresult : (settle s.overlays k).1 with
  | none =>
      rw [hresult] at hturn
      exact ⟨v, hv, hturn⟩
  | some data =>
      rw [hresult] at hturn
      exact h.display hturn

/-- The edits of a write are settled at some keys, each perhaps more than once. -/
theorem Keeps.settleEdits (h : s.Keeps k idField l) {write : Nat}
    {settle : Overlays → Key → Option Version × Overlays} {t : Turn}
    (hsettles : Settles idField write settle t) (keys : List Key) :
    (s.settleEdits settle keys).2.Keeps k idField (if k ∈ keys then l.turn idField t else l) := by
  induction keys generalizing s l with
  | nil => exact h
  | cons k' rest ih =>
      have hone : (match (settle s.overlays k').1 with
          | none => ({ s with overlays := (settle s.overlays k').2 } : Session)
          | some data => ({ s with overlays := (settle s.overlays k').2 } : Session).display k'
            data).Keeps k idField (if k = k' then l.turn idField t else l) := by
        by_cases hk : k = k'
        · subst hk
          rw [if_pos rfl]
          exact h.settle hsettles
        · rw [if_neg hk]
          exact h.settle_ne (hsettles.clears s.overlays k') hk
      have hall : (if k ∈ rest then (if k = k' then l.turn idField t else l).turn idField t
          else if k = k' then l.turn idField t else l) =
          if k ∈ k' :: rest then l.turn idField t else l := by
        by_cases hk : k = k' <;> by_cases hrest : k ∈ rest <;> simp [hk, hrest, hsettles.twice]
      rw [← hall]
      unfold Session.settleEdits
      cases hresult : settle s.overlays k' with
      | mk shown overlays =>
          rw [hresult] at hone
          cases shown with
          | none => exact ih hone
          | some data => exact ih hone

/-- A write is taken back in one turn, where it has edits. -/
theorem Keeps.withdraw (h : s.Keeps k idField l) (w : Write) :
    (s.withdraw w).Keeps k idField
      (if k ∈ w.targets then l.turn idField (.rollback w.id) else l) :=
  (h.settleEdits (settles_rollback idField w.id) w.targets).shows (shows_foldl shows_publish _ _)

/-- It is confirmed in one turn, where it has edits. -/
theorem Keeps.settleWrite (h : s.Keeps k idField l) (w : Write) (response : Json) :
    (s.settleWrite w response).Keeps k idField
      (if k ∈ w.targets then l.turn idField (.commit w.id response) else l) :=
  (h.settleEdits (settles_commit idField w.id response) w.targets).shows
    (shows_foldl shows_publish _ _)

/-! ## Fetched data -/

/-- An answer that counts at the key goes underneath. -/
theorem Keeps.store (h : s.Keeps k idField l) (now : Nat) (f : Fetch) (value : Json) :
    ∃ turns, (∀ t ∈ turns, t.write? = none) ∧
      (s.store now f value).2.Keeps k idField (l.run idField turns) := by
  have hminted := Overlays.agrees_mint s.overlays value
  by_cases hgen : s.generation = f.generation
  · have hoverlays := overlays_store hgen now value
    have hdata := dataAt_store hgen now value k
    by_cases hk : k = f.key
    · subst hk
      obtain ⟨v, hv, hkeeps⟩ := h
      obtain ⟨e, hread⟩ := read_of_dataAt hv
      have hsame : Showing.Keeps ⟨(s.overlays.mint value).2, v⟩ f.key idField l :=
        ⟨hkeeps.field, hkeeps.base, hkeeps.pending, hkeeps.shown⟩
      have hturn := Showing.keeps_rebase hsame (s.overlays.mint value).1
      rw [Showing.turn_rebase, ← hoverlays, ← shown_store hgen now value] at hturn
      refine ⟨[.rebase (s.overlays.mint value).1], by simp [Turn.write?], _, ?_, hturn⟩
      rw [hdata, if_pos rfl, hread]
      rfl
    · refine ⟨[], by simp, h.of_same ?_ ?_ (hdata.trans (if_neg hk))⟩
      · rw [hoverlays]
        unfold Overlays.rebase
        split
        · rfl
        · exact Overlays.idField_settle _ _ _
      · rw [hoverlays]
        unfold Overlays.rebase
        split
        · exact hminted.get k
        · rw [Overlays.get?_settle, if_neg hk, hminted.get]
  · rw [store_older hgen]
    exact ⟨[], by simp, h.of_same rfl (hminted.get k) rfl⟩

end Session

namespace Situation

variable {setup : Setup} {p : Situation} {k : Key} {idField : String} {l : Ledger} {write : Nat}
  {u : Undertaking}

/-- A write that waits after an event, and had begun before it, waited before it. -/
theorem writes_before (hearly : write < p.session.nextWrite) {now : Nat} {e : Event}
    (hwaits : (p.step now e).writes[write]? = some u) : p.writes[write]? = some u := by
  have herase : ∀ {n : Nat}, (p.step now e).writes = p.writes.erase n →
      p.writes[write]? = some u := by
    intro n hwrites
    rw [hwrites, Std.ExtTreeMap.getElem?_erase] at hwaits
    split at hwaits
    · cases hwaits
    · exact hwaits
  cases turned_step p now e with
  | still _ hwrites => exact hwrites ▸ hwaits
  | stored _ hwrites => exact hwrites ▸ hwaits
  | dropped _ hwrites => exact hwrites ▸ hwaits
  | emptied _ hwrites => exact hwrites ▸ hwaits
  | begun _ hwrites =>
      rw [hwrites, Std.ExtTreeMap.getElem?_insert, if_neg] at hwaits
      · exact hwaits
      · rw [Std.compare_eq_iff_eq]
        omega
  | confirmed _ _ hwrites => exact herase hwrites
  | withdrawn _ _ hwrites => exact herase hwrites

/-- One situation passes into another, which is some turns for the ledger of a key, none of them of a
write that had begun before that and waits after it. -/
def Turns (p p' : Situation) (k : Key) (idField : String) (l : Ledger) : Prop :=
  ∃ turns, p'.session.Keeps k idField (l.run idField turns) ∧ ∀ t ∈ turns, ∀ n,
    t.write? = some n → p.session.nextWrite ≤ n ∨ p'.writes[n]? = none

/-- What leaves the ledger as it is has made no turns. -/
theorem turns_none {p' : Situation} (hkept : p'.session.Keeps k idField l) :
    p.Turns p' k idField l :=
  ⟨[], hkept, by simp⟩

/-- A turn that ends a write, if the write aims at the key. -/
theorem turns_end {p' : Situation} {n : Nat} {t : Turn} {aims : Prop} [Decidable aims]
    (ht : t.write? = some n) (hwrites : p'.writes = p.writes.erase n)
    (hkept : p'.session.Keeps k idField (if aims then l.turn idField t else l)) :
    p.Turns p' k idField l := by
  split at hkept
  · refine ⟨[t], hkept, fun t' ht' m hm => Or.inr ?_⟩
    obtain rfl := List.mem_singleton.mp ht'
    obtain rfl := Option.some.inj (ht.symm.trans hm)
    rw [hwrites]
    exact Std.ExtTreeMap.getElem?_erase_self
  · exact turns_none hkept

/-- **An event is some turns for the ledger of a key.** -/
theorem keeps_step (hlayered : p.Layered idField) (h : p.session.Keeps k idField l) {now : Nat}
    {e : Event} (hshown : ((p.step now e).session.dataAt k).isSome) :
    p.Turns (p.step now e) k idField l := by
  cases turned_step p now e with
  | still hshows => exact turns_none (h.shows hshows)
  | @stored _ at' flight f value hshows =>
      obtain ⟨turns, hnone, hkeeps⟩ := h.store at' f value
      refine ⟨turns, hkeeps.shows hshows, fun t ht n hn => ?_⟩
      rw [hnone t ht] at hn
      cases hn
  | @dropped _ _ gone hshows _ hread =>
      have hget := (hshows.overlays.get k).trans (Session.get?_forgets gone _ k)
      have hdrop := hread k
      split at hdrop
      · rw [Session.dataAt_of_absent hdrop] at hshown
        cases hshown
      · rename_i hk
        rw [if_neg hk] at hget
        refine turns_none (h.of_same ?_ hget ?_)
        · exact hshows.overlays.idField.trans (Session.idField_forgets gone _)
        · unfold Session.dataAt
          rw [hdrop]
  | emptied hshows =>
      have hgone := (hshows.data k).trans
        (Session.dataAt_of_absent (Session.read_reset p.session k))
      rw [hgone] at hshown
      cases hshown
  | @begun _ mutation args edits hshows =>
      refine ⟨_, (h.beginWrite edits).shows hshows, fun t ht n hn => Or.inl ?_⟩
      obtain ⟨edit, -, rfl⟩ := List.mem_map.mp ht
      exact Nat.le_of_eq (Option.some.inj hn)
  | @confirmed _ n u response hwrite hshows hwrites =>
      have hid := (hlayered.ids n u hwrite).1
      exact turns_end (by rw [hid]; rfl) hwrites ((h.settleWrite u.write response).shows hshows)
  | @withdrawn _ _ n u hwrite hshows hwrites =>
      have hid := (hlayered.ids n u hwrite).1
      exact turns_end (by rw [hid]; rfl) hwrites ((h.withdraw u.write).shows hshows)

/-- Numbers of writes are only counted up. -/
theorem nextWrite_since (setup : Setup) (earlier later : History) :
    (after setup earlier).session.nextWrite ≤ (after setup (later ++ earlier)).session.nextWrite := by
  induction later with
  | nil => exact Nat.le_refl _
  | cons event later ih => exact Nat.le_trans ih (nextWrite_step _ event.1 event.2)

/-- **The edits of a write stay as they were laid**, as long as the write waits and data is shown. -/
theorem own_since {earlier : History} (h : (after setup earlier).session.Keeps k
      setup.options.idField l) (hearly : write < (after setup earlier).session.nextWrite)
    (later : History)
    (hstays : ∀ since, since <:+ later → ((after setup (since ++ earlier)).session.dataAt k).isSome)
    (hwaits : (after setup (later ++ earlier)).writes[write]? = some u) :
    (after setup earlier).writes[write]? = some u ∧
      ∃ l', (after setup (later ++ earlier)).session.Keeps k setup.options.idField l' ∧
        l'.own write = l.own write := by
  induction later with
  | nil => exact ⟨hwaits, l, h, rfl⟩
  | cons event later ih =>
      obtain ⟨now, e⟩ := event
      have hnext := Nat.lt_of_lt_of_le hearly (nextWrite_since setup earlier later)
      have hbefore := writes_before hnext hwaits
      obtain ⟨hfirst, l₁, hkeeps, hown⟩ :=
        ih (fun since hsince => hstays since (hsince.trans (List.suffix_cons _ _))) hbefore
      obtain ⟨turns, hkept, hothers⟩ := keeps_step (layered_after setup (later ++ earlier)) hkeeps
        (hstays ((now, e) :: later) List.suffix_rfl)
      refine ⟨hfirst, _, hkept, (Ledger.own_run fun t ht heq => ?_).trans hown⟩
      rcases hothers t ht write heq with hlate | hgone
      · exact absurd hnext (Nat.not_lt.mpr hlate)
      · cases hgone.symm.trans hwaits

/-- Right after a write has begun its edits at a key are those laid there. -/
theorem own_begun {earlier : History} (begun : Nat) (m : Mutation) (args : Json)
    (edits : List SpeculativeEdit) {v : Version}
    (hdata : (after setup earlier).session.dataAt k = some v) :
    ∃ l, (after setup ((begun, .write m args edits) :: earlier)).session.Keeps k
        setup.options.idField l ∧
      l.own (after setup earlier).session.nextWrite =
        (Session.editsAt k edits).map (PendingEdit.mk (after setup earlier).session.nextWrite) := by
  have hlayered := layered_after setup earlier
  obtain ⟨l, hkeeps, hwaits⟩ := Session.exists_keeps hlayered.layers hdata
  have hfresh : l.own (after setup earlier).session.nextWrite = [] := by
    refine List.filter_eq_nil_iff.mpr fun p hp => ?_
    obtain ⟨u, hu, -⟩ := hwaits p hp
    simpa using Nat.ne_of_lt (hlayered.ids p.write u hu).2
  refine ⟨_, (hkeeps.beginWrite edits).shows (Session.shows_takeErrands _), ?_⟩
  rw [Ledger.own_applied, hfresh, List.nil_append]

/-- What a confirmation is for the ledger of a key. -/
theorem keeps_confirm {h : History} (hkeeps : (after setup h).session.Keeps k idField l)
    (hwaits : (after setup h).writes[write]? = some u) (now : Nat) (response : Json) :
    (after setup ((now, .confirm write response) :: h)).session.Keeps k idField
      (if k ∈ u.write.targets then l.turn idField (.commit write response) else l) := by
  have hid := ((layered_after setup h).ids write u hwaits).1
  have hsettled := hkeeps.settleWrite u.write response
  rw [hid] at hsettled
  simp only [after, step, hwaits]
  exact hsettled.shows ((Session.shows_confirm _ u.write u.mutation u.args response).trans
    (Session.shows_takeErrands _))

/-- The edits pending in a ledger are of writes that wait, and aim at the key. -/
theorem waits_of_pending {h : History}
    (hkeeps : (after setup h).session.Keeps k setup.options.idField l) {q : PendingEdit}
    (hq : q ∈ l.pending) :
    ∃ u, (after setup h).writes[q.write]? = some u ∧ k ∈ u.write.targets :=
  hkeeps.pending_waits (layered_after setup h).layers q hq

/-- **A confirmed write is part of the base.**  At a key where data is shown from before the write
until it is confirmed, its edits there have been settled on what was known, one after the other; and
what is pending on top is of writes that still wait. -/
theorem base_confirmed {h later earlier : History} {begun : Nat} {m : Mutation} {args : Json}
    {edits : List SpeculativeEdit} (hsplit : h = later ++ (begun, .write m args edits) :: earlier)
    (hnumber : (after setup earlier).session.nextWrite = write)
    (hshown : ((after setup earlier).session.dataAt k).isSome)
    (hstays : ∀ since, since <:+ later → ((after setup
      (since ++ (begun, .write m args edits) :: earlier)).session.dataAt k).isSome)
    (hwaits : (after setup h).writes[write]? = some u) (now : Nat) (response : Json) :
    ∃ l base, (after setup ((now, .confirm write response) :: h)).session.Keeps k
        setup.options.idField l ∧
      l.base = (Session.editsAt k edits).foldl
        (fun v e => e.settled setup.options.idField response v) base ∧
      ∀ p ∈ l.pending, ∃ u',
        (after setup ((now, .confirm write response) :: h)).writes[p.write]? = some u' := by
  subst hsplit
  obtain ⟨v, hdata⟩ := Option.isSome_iff_exists.mp hshown
  obtain ⟨l₀, hbegun, hown⟩ := own_begun begun m args edits hdata
  have hearly : (after setup earlier).session.nextWrite <
      (after setup ((begun, .write m args edits) :: earlier)).session.nextWrite :=
    Nat.lt_of_lt_of_eq (Nat.lt_succ_self _) (Session.nextWrite_beginWrite _ edits).symm
  rw [hnumber] at hown hearly
  obtain ⟨-, l, hkeeps, hkept⟩ := own_since hbegun hearly later hstays hwaits
  have hconfirmed := keeps_confirm hkeeps hwaits now response
  by_cases hk : k ∈ u.write.targets
  · rw [if_pos hk] at hconfirmed
    refine ⟨_, l.base, hconfirmed, ?_, fun p hp => ?_⟩
    · show (l.own write).foldl _ l.base = _
      rw [hkept, hown, List.foldl_map]
    · obtain ⟨u', hu', -⟩ := waits_of_pending hconfirmed hp
      exact ⟨u', hu'⟩
  · rw [if_neg hk] at hconfirmed
    -- A write that does not aim at the key has no edits there.
    have hnone : l.own write = [] := by
      refine List.filter_eq_nil_iff.mpr fun p hp heq => ?_
      obtain ⟨u', hu', haims⟩ := waits_of_pending hkeeps hp
      rw [beq_iff_eq.mp heq] at hu'
      obtain rfl := Option.some.inj (hwaits.symm.trans hu')
      exact hk haims
    have hedits : Session.editsAt k edits = [] := by
      rw [← hkept, hnone] at hown
      exact List.map_eq_nil_iff.mp hown.symm
    refine ⟨l, l.base, hconfirmed, by rw [hedits]; rfl, fun p hp => ?_⟩
    obtain ⟨u', hu', -⟩ := waits_of_pending hconfirmed hp
    exact ⟨u', hu'⟩

end Situation

end QueryCache
