import QueryCache.Proofs.Replay
import QueryCache.Proofs.Sight.Writing
/-!
# What leaves the data shown alone

Most of what a session does changes neither the data on show nor the edits that wait: fetching,
watching, declaring stale.  `Shows` says so of two states, and every such operation is listed
here once.  What does change the data is in `Layers`.
-/

namespace QueryCache.Session

/-- The same data is shown at every key, with the same edits pending. -/
structure Shows (s s' : Session) : Prop where
  overlays : s.overlays.Agrees s'.overlays
  data : ∀ k, s'.dataAt k = s.dataAt k
  nextWrite : s'.nextWrite = s.nextWrite

variable {s s' s'' : Session} {k k' : Key}

/-- Only what holds no data is another. -/
theorem Shows.of_same (hoverlays : s'.overlays = s.overlays) (hcache : s'.cache = s.cache)
    (hnext : s'.nextWrite = s.nextWrite) : s.Shows s' where
  overlays := by
    rw [hoverlays]
    exact ⟨rfl, fun _ => rfl⟩
  data := by
    intro k
    unfold dataAt read
    rw [hcache]
  nextWrite := hnext

theorem Shows.refl (s : Session) : s.Shows s := .of_same rfl rfl rfl

/-- The same is shown after two steps if it is after each. -/
theorem Shows.trans (h : s.Shows s') (h' : s'.Shows s'') : s.Shows s'' where
  overlays := ⟨h'.overlays.idField.trans h.overlays.idField,
    fun k => (h'.overlays.get k).trans (h.overlays.get k)⟩
  data := fun k => (h'.data k).trans (h.data k)
  nextWrite := h'.nextWrite.trans h.nextWrite

/-- The same is shown after a row of operations if it is after each. -/
theorem shows_foldl {α : Type} {g : Session → α → Session}
    (hg : ∀ (s : Session) (a : α), s.Shows (g s a)) (l : List α) (s : Session) : s.Shows (l.foldl g s) := by
  induction l generalizing s with
  | nil => exact .refl s
  | cons a l ih => exact (hg s a).trans (ih (g s a))

/-! ## Single entries -/

/-- Another entry with the same data is put in the place of one, or an empty one where there was
none. -/
theorem shows_put {cache : Cache} {e : Entry}
    (hcache : ∀ k', cache.read k' = if k' = k then some e else s.read k')
    (hdata : e.data = s.dataAt k) : s.Shows { s with cache := cache } where
  overlays := ⟨rfl, fun _ => rfl⟩
  data := by
    intro k'
    change cache.read k' >>= Entry.data = _
    rw [hcache]
    by_cases h : k' = k
    · rw [if_pos h, h]
      exact hdata
    · rw [if_neg h]
      rfl
  nextWrite := rfl

/-- Altering an entry shows the same if its data stays. -/
theorem shows_alter (change : Entry → Entry) (hchange : ∀ e, (change e).data = e.data)
    (s : Session) (k : Key) : s.Shows (s.alter k change) where
  overlays := ⟨rfl, fun _ => rfl⟩
  data := by
    intro k'
    change (s.cache.write k change).2.read k' >>= Entry.data = _
    rw [Cache.read_write]
    by_cases h : k' = k
    · subst h
      rw [if_pos rfl]
      unfold dataAt
      cases hread : s.read k' with
      | none => rw [show s.cache.read k' = none from hread]; rfl
      | some e => rw [show s.cache.read k' = some e from hread]; exact hchange e
    · rw [if_neg h]
      rfl
  nextWrite := rfl

theorem shows_takeErrands (s : Session) : s.Shows s.takeErrands.2 := .of_same rfl rfl rfl

/-- An update that is sent changes nothing on show. -/
theorem shows_publish (s : Session) (k : Key) : s.Shows (s.publish k) :=
  .of_same rfl rfl rfl

/-- An errand changes nothing on show. -/
theorem shows_ask (s : Session) (e : Errand) : s.Shows (s.ask e) := by
  unfold ask
  split
  · exact .of_same rfl rfl rfl
  · exact .refl s

/-- A change shows the same if the data of the entry stays. -/
theorem shows_change (change : Entry → Entry) (hchange : ∀ e, (change e).data = e.data)
    (s : Session) (k : Key) : s.Shows (s.change k change) := by
  unfold Session.change
  split
  · exact (shows_alter change hchange s k).trans (shows_publish _ k)
  · exact .refl s

/-! ## Fetching -/

/-- A departure leaves the data on show. -/
theorem shows_depart (s : Session) (k : Key) (endpoint : Endpoint) (args : Json) (epoch : Nat) :
    s.Shows (s.depart k endpoint args epoch).2 := by
  rw [depart_eq]
  have hboarded : s.Shows (s.boarded endpoint ⟨k, endpoint, args, epoch, s.generation⟩) :=
    .of_same rfl rfl rfl
  exact (hboarded.trans (shows_change Entry.beginFetch (fun _ => rfl) _ k)).trans (shows_ask _ _)

/-- A launch leaves the data on show. -/
theorem shows_launch (s : Session) (k : Key) (endpoint : Endpoint) (args : Json) (epoch : Nat) :
    s.Shows (s.launch k endpoint args epoch).2 := by
  rcases launch_cases s k endpoint args epoch with ⟨hjoin, -⟩ | ⟨hdepart, -⟩
  · rw [hjoin]
    exact .refl s
  · rw [hdepart]
    exact shows_depart s k endpoint args epoch

theorem shows_refetch (s : Session) (k : Key) : s.Shows (s.refetch k) := by
  unfold refetch
  split
  · split
    · exact shows_launch s k _ _ _
    · exact .refl s
  · exact .refl s

/-- A follow-up leaves the data on show. -/
theorem shows_followUp (s : Session) (f : Fetch) : s.Shows (s.followUp f) := by
  unfold followUp
  split
  · exact .refl s
  · split
    · split
      · exact shows_refetch s f.key
      · exact .refl s
    · exact .refl s

/-- A failure leaves the data there was. -/
theorem shows_storeFailure (s : Session) (f : Fetch) (failure : Failure) :
    s.Shows (s.storeFailure f failure) := by
  unfold storeFailure
  split
  · exact .refl s
  · have hchange := shows_change (fun e => e.fail failure) (fun _ => rfl) s f.key
    exact ⟨hchange.overlays, hchange.data, hchange.nextWrite⟩

/-- A flight taken off the register is not to be seen. -/
theorem shows_closed (s : Session) (flight : Nat) (f : Fetch) : s.Shows (s.closed flight f) :=
  .of_same rfl rfl rfl

/-! ## Watching -/

/-- The entry of a call, made or found, has the data shown before. -/
theorem data_entryFor (s : Session) (k : Key) (endpoint : String) (args : Json) (now : Nat) :
    (s.cache.entryFor k endpoint args now).data = s.dataAt k := by
  unfold Cache.entryFor dataAt Session.read
  cases s.cache.read k <;> rfl

/-- A new entry has nothing to show, and a fetch leaves the data on show. -/
theorem shows_query (s : Session) (now : Nat) (endpoint : Endpoint) (args : Json) :
    s.Shows (s.query now endpoint args).2 := by
  let k := endpoint.keyOf args
  let made := { s with cache := s.cache.put k (s.cache.entryFor k endpoint.name args now) }
  let asked := if s.cache.contains k then made else made.ask (.grace k)
  have hmade : s.Shows made :=
    shows_put (s.cache.read_put k _) (data_entryFor s k endpoint.name args now)
  have hasked : s.Shows asked := by
    refine hmade.trans ?_
    simp only [asked]
    split
    · exact .refl made
    · exact shows_ask made _
  unfold query
  simp only
  split
  · exact hasked
  · exact hasked.trans (shows_launch asked k endpoint args _)

/-- Polls have no part in what is shown. -/
theorem shows_startPolling (s : Session) (k : Key) (interval : Nat) :
    s.Shows (s.startPolling k interval) := by
  unfold startPolling
  split
  · split
    · refine .trans ?_ (shows_ask _ _)
      exact .of_same rfl rfl rfl
    · exact .of_same rfl rfl rfl
  · exact .refl s

/-- A subscriber who comes leaves the data on show. -/
theorem shows_subscribe (s : Session) (now : Nat) (endpoint : Endpoint) (args : Json) :
    s.Shows (s.subscribe now endpoint args).2 := by
  let k := endpoint.keyOf args
  let joined := { s with cache := (s.cache.subscribe k endpoint.name args now).2 }
  have hjoined : s.Shows joined :=
    shows_put (s.cache.read_put k _) (data_entryFor s k endpoint.name args now)
  unfold subscribe
  simp only
  split
  · exact hjoined
  · rename_i e hread
    let served := if joined.needsFetch now endpoint e then joined.refetch k else joined
    have hserved : s.Shows served := by
      refine hjoined.trans ?_
      simp only [served]
      split
      · exact shows_refetch joined k
      · exact .refl joined
    split
    · split
      · exact hserved.trans (shows_startPolling served k _)
      · exact hserved
    · exact hserved

/-- A subscriber who leaves changes nothing on show. -/
theorem shows_unsubscribe (s : Session) (now : Nat) (t : Ticket) :
    s.Shows (s.unsubscribe now t) := by
  have hleft : s.Shows { s with cache := (s.cache.unsubscribe t now).2 } := by
    unfold Cache.unsubscribe
    cases hread : s.cache.read t.key with
    | none => exact .refl s
    | some e =>
        by_cases hmem : t.id ∈ e.subscribers
        · simp only [hmem, if_true]
          refine shows_put (s.cache.read_put t.key _) ?_
          unfold dataAt Session.read
          rw [hread]
          rfl
        · simp only [hmem, if_false]
          exact .refl s
  unfold unsubscribe
  simp only
  split
  · refine hleft.trans (.trans ?_ (shows_ask _ _))
    exact .of_same rfl rfl rfl
  · exact hleft

/-! ## Declarations -/

/-- Stale data stays on show. -/
theorem shows_invalidate (s : Session) (tags : List Tag) : s.Shows (s.invalidate tags).2 := by
  rw [invalidate_eq s tags _ rfl]
  refine .trans ?_ (shows_foldl (fun s k => shows_refetch s k) _ _)
  refine .trans ?_ (shows_foldl (fun s k => shows_publish s k) _ _)
  exact shows_foldl (fun s k => shows_alter Entry.invalidate (fun _ => rfl) s k) _ s

end QueryCache.Session
