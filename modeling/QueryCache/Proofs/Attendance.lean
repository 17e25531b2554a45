import QueryCache.Proofs.Sight.Writing
import QueryCache.Session.Viewer
/-!
# Who watches, and who is told

Two things that most of what a session does has in common: nobody comes to watch an entry or goes,
and wherever something else is to be seen afterwards an update has been sent.  `Tells` says both of
two states, and every operation of this sort is listed here once.

An operation on several keys shows first and tells later.  In between the keys that are yet to be
told of are carried along as a list, and `Tells.publishes` settles it.

What the others do, those by which people come and go, is in `Session.Turnover`.
-/

namespace QueryCache

/-- Who watches an entry, and since when nobody does. -/
structure Attendance where
  endpoint : String
  subscribers : Std.ExtTreeSet Nat
  unusedSince : Option Nat

namespace Attendance

def isWatched (a : Attendance) : Bool := !a.subscribers.isEmpty

/-- Of an entry that is made now. -/
def made (endpoint : String) (now : Nat) : Attendance := ⟨endpoint, ∅, some now⟩

def joinedBy (a : Attendance) (subscriber : Nat) : Attendance :=
  { a with subscribers := a.subscribers.insert subscriber, unusedSince := none }

def leftBy (a : Attendance) (subscriber now : Nat) : Attendance :=
  let rest := a.subscribers.erase subscriber
  { a with
    subscribers := rest
    unusedSince := if rest.isEmpty then some now else a.unusedSince }

/-- Nobody has watched for the whole grace period. -/
def Over (a : Attendance) (now keep : Nat) : Prop :=
  a.isWatched = false ∧ ∃ since, a.unusedSince = some since ∧ keep ≤ now - since

/-- What can become of the entry of a key, or of there being none. -/
inductive Fate (now keep : Nat) : Option Attendance → Option Attendance → Prop
  | stays (seat : Option Attendance) : Fate now keep seat seat
  | comes (seat : Option Attendance) (endpoint : String) (subscriber : Nat) :
      Fate now keep seat (some ((seat.getD (.made endpoint now)).joinedBy subscriber))
  | leaves {a : Attendance} {subscriber : Nat} (hmem : subscriber ∈ a.subscribers) :
      Fate now keep (some a) (some (a.leftBy subscriber now))
  | makes (endpoint : String) : Fate now keep none (some (.made endpoint now))
  | drops {a : Attendance} (hover : a.Over now keep) : Fate now keep (some a) none

/-- A subscriber is enough for an entry to be watched. -/
theorem isWatched_of_mem {a : Attendance} {subscriber : Nat} (h : subscriber ∈ a.subscribers) :
    a.isWatched = true := by
  cases hempty : a.subscribers.isEmpty with
  | true => simp [Std.ExtTreeSet.isEmpty_iff.mp hempty] at h
  | false => exact congrArg not hempty

/-- A new entry has nobody to watch it. -/
theorem isWatched_made (endpoint : String) (now : Nat) : (made endpoint now).isWatched = false :=
  congrArg not Std.ExtTreeSet.isEmpty_empty

/-- Who has just come watches. -/
theorem isWatched_joinedBy (a : Attendance) (subscriber : Nat) :
    (a.joinedBy subscriber).isWatched = true :=
  isWatched_of_mem Std.ExtTreeSet.mem_insert_self

end Attendance

namespace Entry

def attendance (e : Entry) : Attendance := ⟨e.endpoint, e.subscribers, e.unusedSince⟩

/-- An entry is evictable only when its grace period is over. -/
theorem over_of_isEvictable {e : Entry} {now keep : Nat} (h : e.isEvictable now keep = true) :
    e.attendance.Over now keep := by
  unfold isEvictable at h
  cases hsince : e.unusedSince with
  | none => simp [hsince] at h
  | some since =>
      simp only [hsince, Bool.and_eq_true, Bool.not_eq_true', decide_eq_true_eq] at h
      exact ⟨h.1, since, hsince, h.2⟩

end Entry

/-- Whether an errand is something else than a fetch to be carried out. -/
def Errand.isChore : Errand → Bool
  | .carry _ => false
  | _ => true

namespace Session

/-- What has been asked for besides fetches. -/
def chores (s : Session) : List Errand := s.errands.filter Errand.isChore

def attendance (s : Session) (k : Key) : Option Attendance := (s.read k).map Entry.attendance

/-- What a screen shows that looks at a key now. -/
def displayAt (s : Session) (k : Key) : Display := .ofLookup (s.read k)

/-- Whether a key is watched is told by its attendance. -/
theorem isWatched_eq (s : Session) (k : Key) :
    s.isWatched k = ((s.attendance k).map Attendance.isWatched).getD false := by
  unfold isWatched attendance
  cases s.read k <;> rfl

/-- Nobody comes or goes. -/
structure Attends (s s' : Session) : Prop where
  setup : s'.setup = s.setup
  keep : s'.cache.keep = s.cache.keep
  attendance : ∀ k, s'.attendance k = s.attendance k
  polls : s'.polls = s.polls
  chores : s'.chores = s.chores

/-- Updates have been sent, and wherever something else is to be seen there was one, but perhaps
for these keys. -/
structure Told (silent : List Key) (s s' : Session) : Prop where
  capacity : s'.updates.capacity = s.updates.capacity
  sent : ∃ news, s'.updates.sent = news ++ s.updates.sent ∧
    ∀ k, s'.displayAt k = s.displayAt k ∨ k ∈ silent ∨ k ∈ news.map Update.key

structure Tells (silent : List Key) (s s' : Session) : Prop where
  attends : s.Attends s'
  told : s.Told silent s'

variable {s s' s'' : Session} {silent silent' : List Key} {k : Key}

/-- Nobody comes or goes in two steps if nobody does in either. -/
theorem Attends.trans (h : s.Attends s') (h' : s'.Attends s'') : s.Attends s'' where
  setup := h'.setup.trans h.setup
  keep := h'.keep.trans h.keep
  attendance := fun k => (h'.attendance k).trans (h.attendance k)
  polls := h'.polls.trans h.polls
  chores := h'.chores.trans h.chores

/-- Two steps together tell of whatever each of them tells of. -/
theorem Told.trans (h : s.Told silent s') (h' : s'.Told silent' s'') :
    s.Told (silent ++ silent') s'' where
  capacity := h'.capacity.trans h.capacity
  sent := by
    obtain ⟨news, hnews, hshown⟩ := h.sent
    obtain ⟨news', hnews', hshown'⟩ := h'.sent
    refine ⟨news' ++ news, by rw [hnews', hnews, List.append_assoc], fun k => ?_⟩
    simp only [List.mem_append, List.map_append]
    rcases hshown' k with hsame' | hsilent' | htold'
    · rcases hshown k with hsame | hsilent | htold
      · exact Or.inl (hsame'.trans hsame)
      · exact Or.inr (Or.inl (Or.inl hsilent))
      · exact Or.inr (Or.inr (Or.inr htold))
    · exact Or.inr (Or.inl (Or.inr hsilent'))
    · exact Or.inr (Or.inr (Or.inl htold'))

/-- Two steps that tell make one that tells. -/
theorem Tells.trans (h : s.Tells silent s') (h' : s'.Tells silent' s'') :
    s.Tells (silent ++ silent') s'' :=
  ⟨h.attends.trans h'.attends, h.told.trans h'.told⟩

/-- As long as everyone is told. -/
theorem Tells.chain (h : s.Tells [] s') (h' : s'.Tells [] s'') : s.Tells [] s'' := h.trans h'

/-- A state in which the same is to be seen, and no update has been sent. -/
theorem Told.of_same (hupdates : s'.updates = s.updates)
    (hdisplay : ∀ k, s'.displayAt k = s.displayAt k) : s.Told [] s' where
  capacity := by rw [hupdates]
  sent := ⟨[], by rw [hupdates]; rfl, fun k => Or.inl (hdisplay k)⟩

/-- Only what concerns neither the entries nor the screens is another. -/
theorem Tells.of_same (hsetup : s'.setup = s.setup) (hcache : s'.cache = s.cache)
    (hpolls : s'.polls = s.polls) (hupdates : s'.updates = s.updates)
    (herrands : s'.errands = s.errands) : s.Tells [] s' := by
  have hread : ∀ k, s'.read k = s.read k := fun k => by
    unfold read
    rw [hcache]
  refine ⟨⟨hsetup, by rw [hcache], fun k => ?_, hpolls, by unfold chores; rw [herrands]⟩,
    .of_same hupdates fun k => ?_⟩
  · unfold attendance
    rw [hread]
  · unfold displayAt
    rw [hread]

theorem Tells.refl (s : Session) : s.Tells [] s := .of_same rfl rfl rfl rfl rfl

/-- An operation on many that tells of each tells of all. -/
theorem Tells.foldl {α : Type} {g : Session → α → Session}
    (hg : ∀ (s : Session) (a : α), s.Tells [] (g s a)) (l : List α) (s : Session) :
    s.Tells [] (l.foldl g s) := by
  induction l generalizing s with
  | nil => exact .refl s
  | cons a l ih => exact (hg s a).chain (ih (g s a))

/-! ## Single entries -/

/-- Altering an entry is seen at its key alone. -/
theorem read_alter (s : Session) (k : Key) (change : Entry → Entry) (k' : Key) :
    (s.alter k change).read k' = if k' = k then (s.read k).map change else s.read k' :=
  s.cache.read_write k change k'

/-- A fetch that is asked for changes nothing to be seen. -/
theorem tells_ask_carry (s : Session) (flight : Nat) : s.Tells [] (s.ask (.carry flight)) := by
  unfold ask
  split
  · exact ⟨⟨rfl, rfl, fun _ => rfl, rfl, by simp [chores, Errand.isChore]⟩,
      .of_same rfl fun _ => rfl⟩
  · exact .refl s

/-- A change of an entry in which nobody comes or goes, and that nobody is told of. -/
theorem tells_alter (change : Entry → Entry) (hchange : ∀ e, (change e).attendance = e.attendance)
    (s : Session) (k : Key) : s.Tells [k] (s.alter k change) where
  attends := by
    refine ⟨rfl, s.cache.keep_write k change, fun k' => ?_, rfl, rfl⟩
    unfold attendance
    rw [read_alter]
    split
    · rename_i hk
      rw [hk, Option.map_map]
      exact congrArg (Option.map · (s.read k)) (funext hchange)
    · rfl
  told := by
    refine ⟨rfl, [], rfl, fun k' => ?_⟩
    by_cases hk : k' = k
    · exact Or.inr (Or.inl (List.mem_singleton.mpr hk))
    · left
      unfold displayAt
      rw [read_alter, if_neg hk]

/-- Nobody needs to be told of a change that cannot be seen. -/
theorem tells_alter_unseen (change : Entry → Entry)
    (hchange : ∀ e, (change e).attendance = e.attendance)
    (hdisplay : ∀ e, Display.ofEntry (change e) = Display.ofEntry e) (s : Session) (k : Key) :
    s.Tells [] (s.alter k change) where
  attends := (tells_alter change hchange s k).attends
  told := by
    refine .of_same rfl fun k' => ?_
    unfold displayAt
    rw [read_alter]
    split
    · rename_i hk
      rw [hk]
      cases s.read k with
      | none => rfl
      | some e => exact hdisplay e
    · rfl

/-- An update may always be sent. -/
theorem tells_publish (s : Session) (k : Key) : s.Tells [] (s.publish k) where
  attends := ⟨rfl, rfl, fun _ => rfl, rfl, rfl⟩
  told := ⟨rfl, [_], rfl, fun _ => Or.inl rfl⟩

/-- Those who were passed over are told. -/
theorem Told.publishes (h : s.Told silent s') (keys : List Key)
    (hkeys : ∀ k ∈ silent, k ∈ keys ∨ s'.displayAt k = s.displayAt k) :
    s.Told [] (keys.foldl publish s') := by
  have hsent : ∀ (keys : List Key) (s : Session), (keys.foldl publish s).updates.capacity =
      s.updates.capacity ∧ (∀ k, (keys.foldl publish s).displayAt k = s.displayAt k) ∧
      ∃ news, (keys.foldl publish s).updates.sent = news ++ s.updates.sent ∧
        ∀ k ∈ keys, k ∈ news.map Update.key := by
    intro keys
    induction keys with
    | nil => exact fun s => ⟨rfl, fun _ => rfl, [], rfl, nofun⟩
    | cons k keys ih =>
        intro s
        obtain ⟨hcapacity, hdisplay, news, hnews, htold⟩ := ih (s.publish k)
        refine ⟨hcapacity, hdisplay, news ++ [⟨k, s.cache.subscribersOf k⟩], ?_, ?_⟩
        · rw [List.foldl_cons, hnews, List.append_assoc]
          rfl
        · intro k' hk'
          rw [List.map_append, List.mem_append]
          rcases List.mem_cons.mp hk' with rfl | hrest
          · exact Or.inr List.mem_cons_self
          · exact Or.inl (htold k' hrest)
  obtain ⟨hcapacity, hdisplay, later, hlater, htold⟩ := hsent keys s'
  obtain ⟨news, hnews, hshown⟩ := h.sent
  refine ⟨hcapacity.trans h.capacity, later ++ news, by rw [hlater, hnews, List.append_assoc],
    fun k => ?_⟩
  rw [hdisplay, List.map_append, List.mem_append]
  rcases hshown k with hsame | hsilent | hknown
  · exact Or.inl hsame
  · rcases hkeys k hsilent with hkey | hsame
    · exact Or.inr (Or.inr (Or.inl (htold k hkey)))
    · exact Or.inl hsame
  · exact Or.inr (Or.inr (Or.inr hknown))

/-- Updates for the keys that were carried along settle what is to be told. -/
theorem Tells.publishes (h : s.Tells silent s') (keys : List Key)
    (hkeys : ∀ k ∈ silent, k ∈ keys ∨ s'.displayAt k = s.displayAt k) :
    s.Tells [] (keys.foldl publish s') :=
  ⟨h.attends.trans (Tells.foldl tells_publish keys s').attends, h.told.publishes keys hkeys⟩

/-- A change of an entry tells of itself. -/
theorem tells_change (change : Entry → Entry) (hchange : ∀ e, (change e).attendance = e.attendance)
    (s : Session) (k : Key) : s.Tells [] (s.change k change) := by
  unfold Session.change
  split
  · exact (tells_alter change hchange s k).publishes [k] fun _ hk => Or.inl hk
  · exact .refl s

/-! ## Fetching -/

/-- A departure tells that the entry's fetch has begun. -/
theorem tells_depart (s : Session) (k : Key) (endpoint : Endpoint) (args : Json) (epoch : Nat) :
    s.Tells [] (s.depart k endpoint args epoch).2 := by
  rw [depart_eq]
  have hboarded : s.Tells [] (s.boarded endpoint ⟨k, endpoint, args, epoch, s.generation⟩) :=
    .of_same rfl rfl rfl rfl rfl
  exact (hboarded.chain (tells_change Entry.beginFetch (fun _ => rfl) _ k)).chain
    (tells_ask_carry _ _)

/-- A launch does so if it is a departure. -/
theorem tells_launch (s : Session) (k : Key) (endpoint : Endpoint) (args : Json) (epoch : Nat) :
    s.Tells [] (s.launch k endpoint args epoch).2 := by
  rcases launch_cases s k endpoint args epoch with ⟨hjoin, -⟩ | ⟨hdepart, -⟩
  · rw [hjoin]
    exact .refl s
  · rw [hdepart]
    exact tells_depart s k endpoint args epoch

theorem tells_refetch (s : Session) (k : Key) : s.Tells [] (s.refetch k) := by
  unfold refetch
  split
  · split
    · exact tells_launch s k _ _ _
    · exact .refl s
  · exact .refl s

/-- A follow-up does no more than fetch again. -/
theorem tells_followUp (s : Session) (f : Fetch) : s.Tells [] (s.followUp f) := by
  unfold followUp
  split
  · exact .refl s
  · split
    · split
      · exact tells_refetch s f.key
      · exact .refl s
    · exact .refl s

/-- An answer that is stored is told of. -/
theorem tells_store (s : Session) (now : Nat) (f : Fetch) (value : Json) :
    s.Tells [] (s.store now f value).2 := by
  by_cases hgen : s.generation = f.generation
  · let load (e : Entry) : Entry :=
      e.load (s.store now f value).1 (f.endpoint.tagsOf f.args value) now f.epoch
    rw [store_current hgen]
    refine .chain ?_ (tells_change load (fun _ => rfl) _ f.key)
    exact .of_same rfl rfl rfl rfl rfl
  · rw [store_older hgen]
    exact .of_same rfl rfl rfl rfl rfl

/-- A failure that is stored is told of. -/
theorem tells_storeFailure (s : Session) (f : Fetch) (failure : Failure) :
    s.Tells [] (s.storeFailure f failure) := by
  by_cases hgen : s.generation = f.generation
  · rw [storeFailure_current hgen]
    refine (tells_change (fun e => e.fail failure) (fun _ => rfl) s f.key).chain ?_
    exact .of_same rfl rfl rfl rfl rfl
  · rw [storeFailure_older hgen]
    exact .refl s

/-- A landing tells of what it has stored, if anything. -/
theorem tells_land (s : Session) (now flight : Nat) (f : Fetch) (brought : Except Failure Json) :
    s.Tells [] (s.land now flight f brought).2 := by
  have hclosed : ∀ s : Session, s.Tells [] (s.closed flight f) :=
    fun s => .of_same rfl rfl rfl rfl rfl
  rw [land_eq]
  cases brought with
  | ok value => exact (tells_store s now f value).chain (hclosed _)
  | error failure => exact (tells_storeFailure s f failure).chain (hclosed _)

/-! ## Writing -/

/-- Every entry that is declared stale is told of. -/
theorem tells_invalidate (s : Session) (tags : List Tag) :
    s.Tells [] (s.invalidate tags).2 := by
  have hstruck : ∀ (s : Session) (k : Key), s.Tells [] (s.alter k Entry.invalidate) :=
    tells_alter_unseen Entry.invalidate (fun _ => rfl) fun _ => rfl
  rw [invalidate_eq s tags _ rfl]
  exact ((Tells.foldl hstruck _ s).chain (.foldl tells_publish _ _)).chain
    (.foldl tells_refetch _ _)

/-- A version is shown before it is told of, so its key is carried along. -/
theorem tells_display (s : Session) (k : Key) (data : Version) :
    s.Tells [k] (s.display k data) :=
  tells_alter (fun e => e.display data) (fun _ => rfl) s k

/-- The keys whose edits were laid are carried along. -/
theorem tells_layEdits (write : Nat) (edits : List SpeculativeEdit) (s : Session) :
    s.Tells (s.layEdits write edits).1 (s.layEdits write edits).2 := by
  induction edits generalizing s with
  | nil => exact .refl s
  | cons e rest ih =>
      unfold layEdits
      cases s.dataAt e.target with
      | none => exact ih s
      | some shown =>
          have hlaid : s.Tells [] { s with
              overlays := (s.overlays.apply write e.target shown e.edit).2 } :=
            .of_same rfl rfl rfl rfl rfl
          exact (hlaid.trans (tells_display _ e.target _)).trans (ih _)

/-- The beginning of a write tells of all its edits. -/
theorem tells_beginWrite (s : Session) (edits : List SpeculativeEdit) :
    s.Tells [] (s.beginWrite edits).2 := by
  have hcounted : s.Tells [] { s with nextWrite := s.nextWrite + 1 } :=
    .of_same rfl rfl rfl rfl rfl
  exact (hcounted.trans (tells_layEdits s.nextWrite edits _)).publishes _ fun _ hk => Or.inl hk

/-- The keys whose overlays were settled are carried along. -/
theorem tells_settleEdits (settle : Overlays → Key → Option Version × Overlays) (keys : List Key)
    (s : Session) : s.Tells (s.settleEdits settle keys).1 (s.settleEdits settle keys).2 := by
  induction keys generalizing s with
  | nil => exact .refl s
  | cons k rest ih =>
      unfold settleEdits
      cases settle s.overlays k with
      | mk shown overlays =>
          have hsettled : s.Tells [] { s with overlays := overlays } :=
            .of_same rfl rfl rfl rfl rfl
          cases shown with
          | none => exact hsettled.trans (ih _)
          | some data =>
              exact (hsettled.trans (tells_display _ k data)).trans (ih _)

/-- Where there is no entry there is nothing to tell of. -/
theorem Tells.publishPresent (h : s.Tells silent s') : s.Tells [] (s'.publishPresent silent) := by
  refine h.publishes _ fun k hk => ?_
  by_cases hthere : s'.cache.contains k = true
  · exact Or.inl (List.mem_filter.mpr ⟨hk, hthere⟩)
  · right
    have hgone : s'.read k = none := by
      rw [Cache.contains_eq] at hthere
      simpa [Session.read] using hthere
    have hbefore : s.attendance k = none := by
      rw [← h.attends.attendance k]
      unfold attendance
      rw [hgone]
      rfl
    unfold displayAt
    rw [hgone, Option.map_eq_none_iff.mp hbefore]

/-- A write that is taken back tells of all it had changed. -/
theorem tells_withdraw (s : Session) (w : Write) : s.Tells [] (s.withdraw w) :=
  (tells_settleEdits _ w.targets s).publishPresent

/-- A write that is settled tells of all it has changed. -/
theorem tells_settleWrite (s : Session) (w : Write) (response : Json) :
    s.Tells [] (s.settleWrite w response) :=
  (tells_settleEdits _ w.targets s).publishPresent

/-- A failed write is taken back, and tells of that. -/
theorem tells_giveUp (s : Session) (w : Write) (failure : Failure) :
    s.Tells [] (s.giveUp w failure) :=
  (tells_withdraw s w).chain (.of_same rfl rfl rfl rfl rfl)

/-- A confirmed write is settled and declares its tags stale, and tells of both. -/
theorem tells_confirm (s : Session) (w : Write) (m : Mutation) (args response : Json) :
    s.Tells [] (s.confirm w m args response) := by
  have hdeclared : (s.settleWrite w response).Tells []
      (if (m.stales args response).isEmpty then s.settleWrite w response
        else ((s.settleWrite w response).invalidate (m.stales args response)).2) := by
    split
    · exact .refl _
    · exact tells_invalidate _ _
  have hsettled := (tells_settleWrite s w response).chain hdeclared
  unfold confirm
  cases m.announcement with
  | none => exact hsettled
  | some message => exact hsettled.chain (.of_same rfl rfl rfl rfl rfl)

end Session

end QueryCache
