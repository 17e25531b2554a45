import QueryCache.Proofs.Confirmation
import QueryCache.Proofs.VisibleData
/-!
# What is left behind by a reset

A reset does not stop what is under way.  Fetches that were in the air land in another generation,
and writes whose request was sent get their answers in a session that has forgotten their edits.

* Whatever such a fetch brings, its landing takes it off the register of fetches in the air and does
  nothing else (`land_older`), and its follow-up does nothing at all (`followUp_older`).  The window
  that its key may have by then is that of another flight.
* The edits that wait after a reset are those of writes that began after it (`Since`), as numbers
  of writes are given once.  So the answer to an older write finds no edit of its own.

`reset_isolates` says so of every history that has a reset in it, whatever came after the reset.
-/

namespace QueryCache

namespace Overlays

variable {o : Overlays} {k : Key} {write : Nat}

/-- A write without edits in a log has none to take out of it. -/
theorem own_isEmpty {log : Overlay} (hnone : ∀ p ∈ log.pending, p.write ≠ write) :
    (log.pending.filter fun p => p.write == write).isEmpty = true := by
  rw [List.isEmpty_iff, List.filter_eq_nil_iff]
  exact fun p hp heq => hnone p hp (beq_iff_eq.mp heq)

/-- Where a write has no pending edit, taking it back changes nothing. -/
theorem rollback_of_none
    (hnone : ∀ log, o.get? k = some log → ∀ p ∈ log.pending, p.write ≠ write) :
    o.rollback write k = (none, o) := by
  unfold rollback
  cases hlog : o.get? k with
  | none => rfl
  | some log => simp only [List.partition_eq_filter_filter, own_isEmpty (hnone log hlog), if_true]

/-- Where a write has no pending edit, confirming it changes nothing. -/
theorem commit_of_none
    (hnone : ∀ log, o.get? k = some log → ∀ p ∈ log.pending, p.write ≠ write) (response : Json) :
    o.commit write k response = (none, o) := by
  unfold commit
  cases hlog : o.get? k with
  | none => rfl
  | some log => simp only [List.partition_eq_filter_filter, own_isEmpty (hnone log hlog), if_true]

end Overlays

namespace Session

variable {s : Session} {flight : Nat} {f : Fetch}

/-! ## Fetches of an older generation -/

/-- The window of a key is never that of a flight of another generation. -/
theorem window?_ne_of_older (hknown : s.Known) (hair : s.fetches[flight]? = some f)
    (hgen : s.generation ≠ f.generation) : s.flights.window? f.key ≠ some flight := by
  intro hopen
  obtain ⟨g, hg⟩ := (hknown f.key (fun _ => none) none none).carried flight hopen
  obtain ⟨hin, hcounts⟩ := Option.filter_eq_some_iff.mp hg
  obtain rfl : f = g := Option.some.inj (hair.symm.trans hin)
  have hcurrent : f.key = f.key ∧ f.generation = s.generation := by simpa [counts] using hcounts
  exact hgen hcurrent.2.symm

/-- The landing of a flight of an older generation takes it off the register. -/
theorem land_older (hknown : s.Known) (hair : s.fetches[flight]? = some f)
    (hgen : s.generation ≠ f.generation) (now : Nat) (brought : Except Failure Json) :
    ∃ stamp, (s.land now flight f brought).2 =
      { s with
        fetches := s.fetches.erase flight
        overlays := { s.overlays with nextStamp := stamp } } := by
  have hflights : s.flights.land f.key flight = s.flights := by
    unfold Flights.land
    exact if_neg (window?_ne_of_older hknown hair hgen)
  rw [land_eq]
  cases brought with
  | ok value =>
      refine ⟨s.overlays.nextStamp + 1, ?_⟩
      simp only [store_older hgen]
      unfold closed
      rw [hflights]
      rfl
  | error failure =>
      refine ⟨s.overlays.nextStamp, ?_⟩
      simp only [storeFailure_older hgen]
      unfold closed
      rw [hflights]

/-- What was begun before a reset is not followed up. -/
theorem followUp_older (hgen : s.generation ≠ f.generation) : s.followUp f = s := by
  unfold followUp
  exact if_pos hgen

/-! ## Writes without edits -/

/-- Where there is nothing to settle nothing is settled. -/
theorem settleEdits_of_none {settle : Overlays → Key → Option Version × Overlays}
    {keys : List Key} (hnone : ∀ k ∈ keys, settle s.overlays k = (none, s.overlays)) :
    s.settleEdits settle keys = ([], s) := by
  induction keys with
  | nil => rfl
  | cons k rest ih =>
      have hhead := hnone k List.mem_cons_self
      unfold settleEdits
      rw [hhead]
      exact ih fun k' hk' => hnone k' (List.mem_cons_of_mem k hk')

/-- No edit of a write waits. -/
def Freed (s : Session) (write : Nat) : Prop :=
  ∀ k log, s.overlays.get? k = some log → ∀ p ∈ log.pending, p.write ≠ write

/-- A write without edits is taken back without a trace. -/
theorem withdraw_of_freed {w : Write} (h : s.Freed w.id) : s.withdraw w = s := by
  have hnone : s.settleEdits (fun o k => o.rollback w.id k) w.targets = ([], s) :=
    settleEdits_of_none fun k _ => Overlays.rollback_of_none (h k)
  unfold withdraw
  simp only [hnone]
  rfl

/-- It is settled without one just as well. -/
theorem settleWrite_of_freed {w : Write} (h : s.Freed w.id) (response : Json) :
    s.settleWrite w response = s := by
  have hnone : s.settleEdits (fun o k => o.commit w.id k response) w.targets = ([], s) :=
    settleEdits_of_none fun k _ => Overlays.commit_of_none (h k) response
  unfold settleWrite
  simp only [hnone]
  rfl

end Session

namespace Situation

variable {p : Situation} {idField : String} {first : Nat}

/-! ## The edits since a reset -/

/-- Every edit that waits belongs to the write of that number or to a later one. -/
structure Since (p : Situation) (idField : String) (first : Nat) : Prop where
  begun : first ≤ p.session.nextWrite
  layers : p.session.Layers idField fun n _ => first ≤ n ∧ n < p.session.nextWrite

/-- Right after a reset no edit waits at all. -/
theorem since_reset (h : p.Layered idField) (now : Nat) :
    (p.step now .reset).Since idField p.session.nextWrite where
  begun := Nat.le_refl _
  layers := (h.layers.reset).shows (Session.shows_takeErrands _)

/-- Edits are laid for writes that begin, so for later ones. -/
theorem Since.step (h : p.Since idField first) (now : Nat) (e : Event) :
    (p.step now e).Since idField first := by
  obtain ⟨hbegun, hlayers⟩ := h
  have hkept : ∀ {s : Session} {p' : Situation},
      s.Layers idField (fun n _ => first ≤ n ∧ n < p.session.nextWrite) →
      s.nextWrite = p.session.nextWrite → s.Shows p'.session → p'.Since idField first := by
    intro s p' hlayers hnext hshows
    rw [← hnext] at hbegun hlayers
    rw [← hshows.nextWrite] at hbegun hlayers
    exact ⟨hbegun, hlayers.shows hshows⟩
  cases turned_step p now e with
  | still hshows => exact hkept hlayers rfl hshows
  | stored hshows => exact hkept (hlayers.store _ _ _) (Session.nextWrite_store _ _ _ _) hshows
  | dropped hshows => exact hkept (hlayers.drops _) (Session.nextWrite_forgets _ _) hshows
  | emptied hshows => exact hkept hlayers.reset rfl hshows
  | @begun p' mutation args edits hshows =>
      have hnext := hshows.nextWrite.trans (Session.nextWrite_beginWrite p.session edits)
      refine ⟨by rw [hnext]; omega, ?_⟩
      refine ((hlayers.beginWrite (fun n _ hn => hn.2) edits).shows hshows).mono ?_
      intro n k hn
      rw [hnext]
      rcases hn with ⟨hle, hlt⟩ | ⟨rfl, -⟩
      · exact ⟨hle, by omega⟩
      · exact ⟨hbegun, by omega⟩
  | confirmed _ hshows =>
      exact hkept ((hlayers.settleWrite _ _).mono fun _ _ hn => hn.1)
        (Session.nextWrite_settleWrite _ _ _) hshows
  | withdrawn _ hshows =>
      exact hkept ((hlayers.withdraw _).mono fun _ _ hn => hn.1)
        (Session.nextWrite_withdraw _ _) hshows

/-- The edits that wait are those of writes that began after the reset. -/
theorem since_after (setup : Setup) (later : History) (t : Nat) (earlier : History) :
    (after setup (later ++ (t, .reset) :: earlier)).Since setup.options.idField
      (after setup earlier).session.nextWrite := by
  induction later with
  | nil => exact since_reset (layered_after setup earlier) t
  | cons event later ih => exact ih.step event.1 event.2

/-- A write from before a reset has no edits. -/
theorem Since.freed (h : p.Since idField first) {write : Nat} (hwrite : write < first) :
    p.session.Freed write := by
  intro k log hlog q hq heq
  obtain ⟨hle, -⟩ := (h.layers.layer k log hlog).waits q hq
  omega

/-! ## The fetches since a reset -/

variable {setup : Setup} {endpoints : List Endpoint} {h : History} {flight : Nat} {f : Fetch}

/-- Generations are only counted up. -/
theorem generation_suffix (hnamed : setup.WellNamed) {mid : History} (hsuffix : mid <:+ h) :
    (after setup mid).session.generation ≤ (after setup h).session.generation := by
  obtain ⟨later, rfl⟩ := hsuffix
  induction later with
  | nil => exact Nat.le_refl _
  | cons event later ih =>
      obtain ⟨hsetup, htidy, hknown⟩ := tidy_after hnamed (later ++ mid)
      have hpasses := passes_step (by rw [hsetup]; exact hnamed) hknown htidy event.1 event.2
      exact Nat.le_trans ih hpasses.generation

/-- What was in the air at a reset is of an older generation ever after. -/
theorem older_of_reset (hnamed : setup.WellNamed) {earlier : History} {t : Nat}
    (hsuffix : (t, .reset) :: earlier <:+ h)
    (hbefore : (after setup earlier).session.fetches[flight]? = some f) :
    f.generation < (after setup h).session.generation := by
  have hdeparted := ((tidy_after hnamed earlier).2.1.air flight f hbefore).2
  have hreset : (after setup ((t, .reset) :: earlier)).session.generation =
      (after setup earlier).session.generation + 1 := rfl
  have hsince := generation_suffix hnamed hsuffix
  omega

/-- What has landed was in the air just before, or had landed before. -/
theorem landed_step (p : Situation) (now : Nat) (e : Event) {g : Fetch}
    (hlanded : (p.step now e).landed[flight]? = some g) :
    p.landed[flight]? = some g ∨ p.session.fetches[flight]? = some g := by
  have hoccurs := p.occurs_step now e
  generalize p.step now e = p' at hoccurs hlanded
  cases hoccurs with
  | @land n f hair =>
      simp only [Std.ExtTreeMap.getElem?_insert] at hlanded
      split at hlanded
      · rename_i hn
        obtain rfl := Std.LawfulEqOrd.eq_of_compare hn
        exact Or.inr (hair.trans hlanded)
      · exact Or.inl hlanded
  | followUp =>
      simp only [Std.ExtTreeMap.getElem?_erase] at hlanded
      split at hlanded
      · cases hlanded
      · exact Or.inl hlanded
  | _ => exact Or.inl hlanded

/-- What has landed under the number of a flight is that flight. -/
theorem landed_since (hnamed : setup.WellNamed)
    (hair : (after setup h).session.fetches[flight]? = some f) (now : Nat)
    (brought : Except Failure Json) (since : History) {g : Fetch}
    (hlanded : (after setup (since ++ (now, .land flight brought) :: h)).landed[flight]? =
      some g) : g = f := by
  induction since with
  | nil =>
      simp only [List.nil_append, after, step, hair, Std.ExtTreeMap.getElem?_insert_self] at hlanded
      exact (Option.some.inj hlanded).symm
  | cons event since ih =>
      rcases landed_step _ event.1 event.2 hlanded with hbefore | hagain
      · exact ih hbefore
      · -- Numbers of flights are given once, so what has landed is in the air no more.
        have hdeparted := ((tidy_after hnamed h).2.1.air flight f hair).1
        have hnext := (flights_step hnamed h now (.land flight brought)).1
        have hback := air_suffix hnamed (List.suffix_append since _) hagain (by omega)
        rw [gone_land hair now brought] at hback
        cases hback

/-- Whatever a session asks for is taken at once. -/
theorem errands_step (hnone : p.session.errands = []) (now : Nat) (e : Event) :
    (p.step now e).session.errands = [] := by
  have hoccurs := p.occurs_step now e
  generalize p.step now e = p' at hoccurs ⊢
  cases hoccurs with
  | nothing => exact hnone
  | _ => rfl

/-- Errands are handed out with the event that asks for them. -/
theorem errands_after (setup : Setup) (h : History) : (after setup h).session.errands = [] := by
  induction h with
  | nil => rfl
  | cons event h ih => exact errands_step ih event.1 event.2

/-- Taking errands changes nothing where there are none. -/
theorem takeErrands_after (setup : Setup) (h : History) :
    (after setup h).session.takeErrands.2 = (after setup h).session := by
  have hnone := errands_after setup h
  unfold Session.takeErrands
  rw [← hnone]

/-! ## What has no effect any more -/

/-- A flight that is in the air and counts nowhere. -/
structure Disregarded (setup : Setup) (h : History) (flight : Nat) : Prop where
  /-- Whatever it brings, its landing takes it off the register of what is in the air.  (The value
  that it brings gets the next stamp, as all values do.) -/
  lands : ∀ now brought, ∃ stamp,
    (after setup ((now, .land flight brought) :: h)).session =
      { (after setup h).session with
        fetches := (after setup h).session.fetches.erase flight
        overlays := { (after setup h).session.overlays with nextStamp := stamp } }
  /-- Whenever it is followed up then, nothing is fetched. -/
  followsUp : ∀ now brought since soon,
    (after setup ((soon, .followUp flight) :: since ++ (now, .land flight brought) :: h)).session =
      (after setup (since ++ (now, .land flight brought) :: h)).session

/-- A write that waits for its answer and has no edits any more. -/
structure Disowned (setup : Setup) (h : History) (write : Nat) : Prop where
  /-- Its confirmation changes no data and no edits, whatever it declares stale. -/
  confirms : ∀ now response,
    (after setup h).session.Shows (after setup ((now, .confirm write response) :: h)).session
  /-- Its failure is announced. -/
  givesUp : ∀ now failure, (after setup ((now, .giveUp write failure) :: h)).session =
    { (after setup h).session with
      notices := ((after setup h).session.notices.announce failure).2 }
  cancels : ∀ now,
    (after setup ((now, .cancel write) :: h)).session = (after setup h).session

/-- What was in the air at a reset is disregarded. -/
theorem disregarded_of_reset (hnamed : setup.WellNamed) {earlier : History} {t : Nat}
    (hsuffix : (t, .reset) :: earlier <:+ h)
    (hair : (after setup h).session.fetches[flight]? = some f)
    (hbefore : (after setup earlier).session.fetches[flight]? = some f) :
    Disregarded setup h flight where
  lands := by
    intro now brought
    have hgen := older_of_reset hnamed hsuffix hbefore
    obtain ⟨stamp, hland⟩ := Session.land_older (tidy_after hnamed h).2.2 hair
      (Nat.ne_of_gt hgen) now brought
    refine ⟨stamp, ?_⟩
    have hstep : (after setup ((now, .land flight brought) :: h)).session =
        ((after setup h).session.land now flight f brought).2.takeErrands.2 := by
      simp only [after, step, hair]
      rfl
    rw [hstep, hland]
    unfold Session.takeErrands
    rw [← errands_after setup h]
  followsUp := by
    intro now brought since soon
    have hlonger : (t, .reset) :: earlier <:+ since ++ (now, .land flight brought) :: h :=
      (hsuffix.trans (List.suffix_cons _ h)).trans (List.suffix_append since _)
    have hgen := older_of_reset hnamed hlonger hbefore
    simp only [List.cons_append, after, step]
    cases hlanded : (after setup (since ++ (now, .land flight brought) :: h)).landed[flight]? with
    | none => rfl
    | some g =>
        obtain rfl := landed_since hnamed hair now brought since hlanded
        simp only [session_become, Session.followUp_older (Nat.ne_of_gt hgen)]
        exact takeErrands_after setup _

/-- A write that waited at a reset is disowned. -/
theorem disowned_of_reset {later earlier : History} {t write : Nat} {u : Undertaking}
    (hsplit : h = later ++ (t, .reset) :: earlier)
    (hwaits : (after setup h).writes[write]? = some u)
    (hbefore : write < (after setup earlier).session.nextWrite) : Disowned setup h write := by
  have hsince := since_after setup later t earlier
  rw [← hsplit] at hsince
  have hid := ((layered_after setup h).ids write u hwaits).1
  have hfreed : (after setup h).session.Freed u.write.id := hsince.freed (by omega)
  have hwithdrawn := Session.withdraw_of_freed hfreed
  refine ⟨?_, ?_, ?_⟩
  · intro now response
    have hshows := Session.shows_confirm (after setup h).session u.write u.mutation u.args response
    rw [Session.settleWrite_of_freed hfreed] at hshows
    simp only [after, step, hwaits]
    exact hshows.trans (Session.shows_takeErrands _)
  · intro now failure
    simp only [after, step, hwaits, Session.giveUp, hwithdrawn, settled, session_become,
      Session.takeErrands]
    rw [← errands_after setup h]
  · intro now
    simp only [after, step, hwaits, hwithdrawn]
    exact takeErrands_after setup h

theorem exists_of_mem {α : Type} {table : Std.ExtTreeMap Nat α} {n : Nat} (h : n ∈ table) :
    ∃ a, table[n]? = some a :=
  Option.isSome_iff_exists.mp (Std.ExtTreeMap.mem_iff_isSome_getElem?.mp h)

/-- **A reset isolates the past.**  Whatever comes after a reset: a flight that was in the air at it
is disregarded as long as it is there, and a write that waited for its answer is disowned. -/
theorem reset_isolates (hcatalog : setup.endpoints = Setup.catalog endpoints)
    {later earlier : History} {t : Nat} (hsplit : h = later ++ (t, .reset) :: earlier) :
    (∀ flight, flight ∈ (after setup earlier).session.fetches →
      flight ∈ (after setup h).session.fetches → Disregarded setup h flight) ∧
    ∀ write, write ∈ (after setup earlier).writes →
      write ∈ (after setup h).writes → Disowned setup h write := by
  have hnamed := Setup.wellNamed_of_catalog hcatalog
  have hsuffix : (t, .reset) :: earlier <:+ h := ⟨later, hsplit.symm⟩
  constructor
  · intro flight hbefore hthere
    obtain ⟨g, hg⟩ := exists_of_mem hbefore
    obtain ⟨f, hair⟩ := exists_of_mem hthere
    have hdeparted := ((tidy_after hnamed earlier).2.1.air flight g hg).1
    exact disregarded_of_reset hnamed hsuffix hair
      (air_suffix hnamed ((List.suffix_cons _ earlier).trans hsuffix) hair hdeparted)
  · intro write hbefore hthere
    obtain ⟨v, hv⟩ := exists_of_mem hbefore
    obtain ⟨u, hwaits⟩ := exists_of_mem hthere
    exact disowned_of_reset hsplit hwaits ((layered_after setup earlier).ids write v hv).2

/-- The messages are fetched a second time while one is being marked as read. -/
def leaving : History :=
  [(7, .refetch inboxKey),
    (5, .write Classroom.markMessageRead (.ofFields [("id", .num (.int 7))])
      (Classroom.showMessageRead (.num (.int 7)))),
    (1, .followUp 0), (1, .land 0 (.ok (inbox false))),
    (0, .subscribe "getMessages" .null)]

/-- After a reset the same is done over again. -/
def returning : History :=
  [(27, .refetch inboxKey),
    (25, .write Classroom.markMessageRead (.ofFields [("id", .num (.int 7))])
      (Classroom.showMessageRead (.num (.int 7)))),
    (21, .followUp 2), (21, .land 2 (.ok (inbox false))),
    (20, .subscribe "getMessages" .null)]

/-- The old fetch is in the air beside a new one of the same key, and the old write waits beside a
new one that has an edit there. -/
theorem reset_isolates_returning :
    ((after classroom (returning ++ (10, .reset) :: leaving)).session.fetches.keys = [1, 3] ∧
      (after classroom (returning ++ (10, .reset) :: leaving)).session.flights.window? inboxKey =
        some 3 ∧
      (after classroom (returning ++ (10, .reset) :: leaving)).writes.keys = [1, 2] ∧
      ((after classroom (returning ++ (10, .reset) :: leaving)).session.overlays.get? inboxKey).map
        (fun log => log.pending.map PendingEdit.write) = some [2]) ∧
    Disregarded classroom (returning ++ (10, .reset) :: leaving) 1 ∧
    Disowned classroom (returning ++ (10, .reset) :: leaving) 1 := by
  have hnow : (after classroom (returning ++ (10, .reset) :: leaving)).session.fetches.keys =
        [1, 3] ∧
      (after classroom (returning ++ (10, .reset) :: leaving)).session.flights.window? inboxKey =
        some 3 ∧
      (after classroom (returning ++ (10, .reset) :: leaving)).writes.keys = [1, 2] ∧
      ((after classroom (returning ++ (10, .reset) :: leaving)).session.overlays.get? inboxKey).map
        (fun log => log.pending.map PendingEdit.write) = some [2] := by
    decide +kernel
  have hthen : (after classroom leaving).session.fetches.keys = [1] ∧
      (after classroom leaving).writes.keys = [1] := by
    decide +kernel
  have hcatalog : classroom.endpoints = Setup.catalog Classroom.endpoints := rfl
  have hsplit : returning ++ (10, .reset) :: leaving = returning ++ (10, .reset) :: leaving := rfl
  obtain ⟨hisolated, hdisowned⟩ := reset_isolates hcatalog hsplit
  refine ⟨hnow, hisolated 1 ?_ ?_, hdisowned 1 ?_ ?_⟩
  · simp [← Std.ExtTreeMap.mem_keys, hthen.1]
  · simp [← Std.ExtTreeMap.mem_keys, hnow.1]
  · simp [← Std.ExtTreeMap.mem_keys, hthen.2]
  · simp [← Std.ExtTreeMap.mem_keys, hnow.2.2.1]

end Situation

end QueryCache
