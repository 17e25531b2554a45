import Mathlib.Data.List.Sort
import QueryCache.Proofs.Sight.Watching
/-!
# Who holds a ticket

A subscriber holds a ticket from the moment it is issued until it is shown to leave or everything is
cleared (`Cache.held`).  The cache keeps no tickets: it has the set of subscribers of each entry, and
the moment since when an entry has none.  Tickets outlive what they were issued for, and may be shown
again, at an entry that has been made anew for the same call.

`Accounts` is what the cache and the tickets have to do with each other: the subscribers of a key are
the numbers on the tickets held of it.  Each call preserves it; what most of them do is exchange or
drop entries and leave everyone in place (`Accounts.of_same_seats`).
-/

namespace QueryCache

namespace Entry

/-- The changes that a session makes to entries. -/
inductive Change where
  | beginFetch
  | load (data : Version) (tags : TagSet) (now epoch : Nat)
  | fail (f : Failure)
  | display (data : Version)
  | invalidate

namespace Change

def make : Change → Entry → Entry
  | .beginFetch, e => e.beginFetch
  | .load data tags now epoch, e => e.load data tags now epoch
  | .fail f, e => e.fail f
  | .display data, e => e.display data
  | .invalidate, e => e.invalidate

variable (change : Change) (e : Entry)

/-- A change leaves an entry its key. -/
@[simp]
theorem make_key : (change.make e).key = e.key := by
  cases change <;> rfl

/-- A change leaves an entry its subscribers. -/
@[simp]
theorem make_subscribers : (change.make e).subscribers = e.subscribers := by
  cases change <;> rfl

@[simp]
theorem make_unusedSince : (change.make e).unusedSince = e.unusedSince := by
  cases change <;> rfl

end Change

/-- The entry is stored under its own key, and has a moment since when it is unused if it is. -/
structure Filed (k : Key) (e : Entry) : Prop where
  key : e.key = k
  unused : e.unusedSince.isSome ↔ e.subscribers = ∅

variable {e : Entry} {k : Key}

/-- An entry stays filed through every change. -/
theorem Filed.make (h : e.Filed k) (change : Change) : (change.make e).Filed k :=
  ⟨(change.make_key e).trans h.key, by
    rw [change.make_unusedSince, change.make_subscribers]
    exact h.unused⟩

/-- Who comes is one of the subscribers. -/
theorem mem_watchedBy {subscriber id : Nat} :
    id ∈ (e.watchedBy subscriber).subscribers ↔ id = subscriber ∨ id ∈ e.subscribers := by
  simp only [Entry.watchedBy, Std.ExtTreeSet.mem_insert, Std.compare_eq_iff_eq]
  rw [eq_comm]

/-- Who leaves is none of them any more. -/
theorem mem_leftBy {subscriber now id : Nat} :
    id ∈ (e.leftBy subscriber now).subscribers ↔ id ≠ subscriber ∧ id ∈ e.subscribers := by
  simp only [Entry.leftBy, Std.ExtTreeSet.mem_erase, ne_eq, Std.compare_eq_iff_eq]
  rw [eq_comm]

/-- An entry stays filed when somebody comes. -/
theorem Filed.watchedBy (h : e.Filed k) (subscriber : Nat) :
    (e.watchedBy subscriber).Filed k := by
  refine ⟨h.key, ?_⟩
  have hthere : subscriber ∈ (e.watchedBy subscriber).subscribers := mem_watchedBy.mpr (.inl rfl)
  constructor
  · intro hunused
    cases hunused
  · intro hempty
    rw [hempty] at hthere
    cases Std.ExtTreeSet.not_mem_empty hthere

/-- The last one to go starts the time that the entry is unused. -/
theorem Filed.leftBy (h : e.Filed k) {subscriber : Nat} (hmem : subscriber ∈ e.subscribers)
    (now : Nat) : (e.leftBy subscriber now).Filed k := by
  refine ⟨h.key, ?_⟩
  have hbefore : e.unusedSince.isSome = false := by
    cases hunused : e.unusedSince.isSome with
    | false => rfl
    | true =>
        rw [h.unused.mp hunused] at hmem
        cases Std.ExtTreeSet.not_mem_empty hmem
  unfold Entry.leftBy
  cases hrest : (e.subscribers.erase subscriber).isEmpty with
  | true => exact iff_of_true (by simp [hrest]) (Std.ExtTreeSet.isEmpty_iff.mp hrest)
  | false =>
      refine iff_of_false (by simp [hrest, hbefore]) fun hempty => ?_
      have := Std.ExtTreeSet.isEmpty_iff.mpr hempty
      rw [hrest] at this
      cases this

end Entry

/-- A ticket is told by its key and its number. -/
theorem Ticket.eq_iff {t u : Ticket} : t = u ↔ t.key = u.key ∧ t.id = u.id := by
  cases t
  cases u
  simp [and_comm]

namespace Cache

/-- What a cache can be asked for. -/
inductive Call where
  | ensure (k : Key) (endpoint : String) (args : Json)
  | subscribe (k : Key) (endpoint : String) (args : Json)
  | unsubscribe (t : Ticket)
  | write (k : Key) (change : Entry.Change)
  | evict (k : Key)
  | collect
  | clear

/-- What a cache answers. -/
inductive Answer where
  | done
  | issued (t : Ticket)
  /-- How many are left, if anybody has left. -/
  | left (rest : Option Nat)
  /-- Who is told of a change, if there is an entry. -/
  | told (subscribers : Option (List Nat))
  | dropped (keys : List Key)
deriving DecidableEq, Repr

/-- Does what it is asked for. -/
def serve (c : Cache) (now : Nat) : Call → Answer × Cache
  | .ensure k endpoint args => (.done, c.ensure k endpoint args now)
  | .subscribe k endpoint args =>
    (.issued (c.subscribe k endpoint args now).1, (c.subscribe k endpoint args now).2)
  | .unsubscribe t => (.left (c.unsubscribe t now).1, (c.unsubscribe t now).2)
  | .write k change => (.told (c.write k change.make).1, (c.write k change.make).2)
  | .evict k => (.dropped (if (c.evict k now).1 then [k] else []), (c.evict k now).2)
  | .collect => (.dropped (c.collect now).1, (c.collect now).2)
  | .clear => (.done, c.clear)

/-- What a cache was asked for and when, the latest first. -/
abbrev Calls := List (Nat × Call)

def after (keep : Nat) : Calls → Cache
  | [] => .empty keep
  | (now, call) :: calls => ((after keep calls).serve now call).2

/-- The tickets issued, the latest first. -/
def issued (keep : Nat) : Calls → List Ticket
  | [] => []
  | (now, .subscribe k endpoint args) :: calls =>
      ((after keep calls).subscribe k endpoint args now).1 :: issued keep calls
  | _ :: calls => issued keep calls

/-- The tickets that have neither been shown to leave since they were issued nor been cleared. -/
def held (keep : Nat) : Calls → List Ticket
  | [] => []
  | (now, .subscribe k endpoint args) :: calls =>
      ((after keep calls).subscribe k endpoint args now).1 :: held keep calls
  | (_, .unsubscribe t) :: calls => (held keep calls).filter (· ≠ t)
  | (_, .clear) :: _ => []
  | _ :: calls => held keep calls

/-- The tickets that somebody has left with. -/
def returned (keep : Nat) : Calls → List Ticket
  | [] => []
  | (now, .unsubscribe t) :: calls =>
      if ((after keep calls).unsubscribe t now).1.isSome then t :: returned keep calls
      else returned keep calls
  | _ :: calls => returned keep calls

/-- The subscribers of a key, by the tickets held, in the order in which they came. -/
def seated (held : List Ticket) (k : Key) : List Nat :=
  ((held.filter fun t => t.key = k).map Ticket.id).reverse

/-- The cache, the tickets issued, those held and those returned belong together. -/
structure Accounts (c : Cache) (issued held returned : List Ticket) : Prop where
  filed : ∀ k e, c.read k = some e → e.Filed k
  seats : ∀ t, t.id ∈ c.subscribersOf t.key ↔ t ∈ held
  given : ∀ t ∈ issued, t.id < c.nextSubscriber
  falling : issued.Pairwise fun t u => u.id < t.id
  kept : held.Sublist issued
  once : returned.Nodup
  gone : ∀ t ∈ returned, t ∈ issued ∧ t ∉ held

variable {c c' : Cache} {issued held returned : List Ticket} {k : Key} {t : Ticket} {now keep : Nat}

theorem mem_subscribersOf {id : Nat} :
    id ∈ c.subscribersOf k ↔ ∃ e, c.read k = some e ∧ id ∈ e.subscribers := by
  unfold subscribersOf
  cases hread : c.read k with
  | none => simp
  | some e => simp

/-- The entry for a call is filed, whether it is new or was there. -/
theorem filed_entryFor (hfiled : ∀ k e, c.read k = some e → e.Filed k) (k : Key)
    (endpoint : String) (args : Json) (now : Nat) : (c.entryFor k endpoint args now).Filed k := by
  unfold entryFor
  cases hread : c.read k with
  | none => exact ⟨rfl, iff_of_true rfl rfl⟩
  | some e => exact hfiled k e hread

/-- A call gets its entry with whom it has, or with nobody. -/
theorem mem_entryFor (c : Cache) (k : Key) (endpoint : String) (args : Json) (now id : Nat) :
    id ∈ (c.entryFor k endpoint args now).subscribers ↔ id ∈ c.subscribersOf k := by
  rw [mem_subscribersOf]
  unfold entryFor
  cases hread : c.read k with
  | none => simp [Entry.fresh]
  | some e => simp

/-- An entry that is put brings its subscribers. -/
theorem mem_subscribersOf_put (c : Cache) (k : Key) (e : Entry) (k' : Key) (id : Nat) :
    id ∈ (c.put k e).subscribersOf k' ↔
      if k' = k then id ∈ e.subscribers else id ∈ c.subscribersOf k' := by
  rw [mem_subscribersOf, read_put]
  split
  · simp
  · exact mem_subscribersOf.symm

/-- Putting a filed entry leaves all of them filed. -/
theorem filed_put (hfiled : ∀ k e, c.read k = some e → e.Filed k) {e : Entry} (he : e.Filed k) :
    ∀ k' e', (c.put k e).read k' = some e' → e'.Filed k' := by
  intro k' e' hread
  rw [read_put] at hread
  split at hread
  · rename_i hk
    obtain rfl := Option.some.inj hread
    rw [hk]
    exact he
  · exact hfiled k' e' hread

/-- Only who is there can leave. -/
theorem unsubscribe_cases (c : Cache) (t : Ticket) (now : Nat) :
    (∃ e, c.read t.key = some e ∧ t.id ∈ e.subscribers ∧ c.unsubscribe t now =
      (some (e.leftBy t.id now).subscribers.size, c.put t.key (e.leftBy t.id now))) ∨
    (t.id ∉ c.subscribersOf t.key ∧ c.unsubscribe t now = (none, c)) := by
  unfold unsubscribe
  cases hread : c.read t.key with
  | none =>
      right
      refine ⟨fun hmem => ?_, rfl⟩
      obtain ⟨e, hthere, -⟩ := mem_subscribersOf.mp hmem
      cases hread.symm.trans hthere
  | some e =>
      by_cases hmem : t.id ∈ e.subscribers
      · exact Or.inl ⟨e, rfl, hmem, if_pos hmem⟩
      · right
        refine ⟨fun hother => ?_, if_neg hmem⟩
        obtain ⟨e', hthere, hmem'⟩ := mem_subscribersOf.mp hother
        obtain rfl := Option.some.inj (hread.symm.trans hthere)
        exact hmem hmem'

/-- A ticket is taken back if its number subscribes at its key. -/
theorem isSome_unsubscribe_iff :
    (c.unsubscribe t now).1.isSome ↔ t.id ∈ c.subscribersOf t.key := by
  rcases c.unsubscribe_cases t now with ⟨e, hread, hmem, heq⟩ | ⟨habsent, heq⟩
  · rw [heq]
    exact iff_of_true rfl (mem_subscribersOf.mpr ⟨e, hread, hmem⟩)
  · rw [heq]
    exact iff_of_false (by simp) habsent

/-- If nobody leaves the cache stays as it is. -/
theorem unsubscribe_of_none (hnone : (c.unsubscribe t now).1 = none) :
    (c.unsubscribe t now).2 = c := by
  rcases c.unsubscribe_cases t now with ⟨e, -, -, heq⟩ | ⟨-, heq⟩
  · rw [heq] at hnone
    cases hnone
  · rw [heq]

/-- An entry that may be dropped has no subscribers. -/
theorem subscribersOf_of_isEvictable (h : c.isEvictable k now = true) (id : Nat) :
    id ∉ c.subscribersOf k := by
  obtain ⟨e, hread, hunwatched⟩ := Session.unwatched_of_evictable h
  intro hmem
  obtain ⟨e', hthere, hmem'⟩ := mem_subscribersOf.mp hmem
  obtain rfl := Option.some.inj (hread.symm.trans hthere)
  have hempty : e.subscribers = ∅ := by simpa [Entry.isWatched] using hunwatched
  rw [hempty] at hmem'
  simp at hmem'

/-! ## What each call preserves -/

namespace Accounts

/-- If nobody comes and nobody goes, all stays accounted for. -/
theorem of_same_seats (h : c.Accounts issued held returned)
    (hnext : c'.nextSubscriber = c.nextSubscriber)
    (hfiled : ∀ k e, c'.read k = some e → e.Filed k)
    (hseats : ∀ k id, id ∈ c'.subscribersOf k ↔ id ∈ c.subscribersOf k) :
    c'.Accounts issued held returned where
  filed := hfiled
  seats := fun t => (hseats t.key t.id).trans (h.seats t)
  given := fun t ht => hnext ▸ h.given t ht
  falling := h.falling
  kept := h.kept
  once := h.once
  gone := h.gone

/-- An entry is exchanged for one with the same subscribers. -/
theorem put (h : c.Accounts issued held returned) {e : Entry} (he : e.Filed k)
    (hseats : ∀ id, id ∈ e.subscribers ↔ id ∈ c.subscribersOf k) :
    (c.put k e).Accounts issued held returned := by
  refine h.of_same_seats rfl (filed_put h.filed he) fun k' id => ?_
  rw [mem_subscribersOf_put]
  split
  · rename_i hk
    rw [hk]
    exact hseats id
  · rfl

/-- Entries that nobody watches are dropped. -/
theorem drop (h : c.Accounts issued held returned) {dropped : List Key}
    (hevictable : ∀ k ∈ dropped, c.isEvictable k now = true)
    (hnext : c'.nextSubscriber = c.nextSubscriber)
    (hread : ∀ k, c'.read k = if k ∈ dropped then none else c.read k) :
    c'.Accounts issued held returned := by
  refine h.of_same_seats hnext ?_ ?_
  · intro k e hthere
    rw [hread] at hthere
    split at hthere
    · cases hthere
    · exact h.filed k e hthere
  · intro k id
    rw [mem_subscribersOf, hread]
    split
    · rename_i hdropped
      exact iff_of_false (fun ⟨_, hthere, _⟩ => by cases hthere)
        (subscribersOf_of_isEvictable (hevictable k hdropped) id)
    · exact mem_subscribersOf.symm

/-- Making an entry leaves everyone in place. -/
theorem ensure (h : c.Accounts issued held returned) (k : Key) (endpoint : String) (args : Json)
    (now : Nat) : (c.ensure k endpoint args now).Accounts issued held returned :=
  h.put (filed_entryFor h.filed k endpoint args now) (c.mem_entryFor k endpoint args now)

/-- Changing an entry leaves everyone in place. -/
theorem write (h : c.Accounts issued held returned) (k : Key) (change : Entry.Change) :
    (c.write k change.make).2.Accounts issued held returned := by
  unfold Cache.write
  cases hread : c.read k with
  | none => exact h
  | some e =>
      refine h.put ((h.filed k e hread).make change) fun id => ?_
      rw [change.make_subscribers, mem_subscribersOf]
      constructor
      · intro hmem
        exact ⟨e, hread, hmem⟩
      · rintro ⟨e', hthere, hmem⟩
        obtain rfl := Option.some.inj (hread.symm.trans hthere)
        exact hmem

/-- Every number is issued once. -/
theorem fresh (h : c.Accounts issued held returned) (ht : t.id = c.nextSubscriber) :
    t ∉ issued := by
  intro hmem
  have := h.given t hmem
  omega

/-- Who subscribes is issued a ticket and holds it. -/
theorem subscribe (h : c.Accounts issued held returned) (k : Key) (endpoint : String) (args : Json)
    (now : Nat) : (c.subscribe k endpoint args now).2.Accounts
      ((c.subscribe k endpoint args now).1 :: issued)
      ((c.subscribe k endpoint args now).1 :: held) returned := by
  have hnew : (⟨c.nextSubscriber, k⟩ : Ticket) ∉ issued := h.fresh rfl
  have hentry := filed_entryFor h.filed k endpoint args now
  refine ⟨filed_put h.filed (hentry.watchedBy c.nextSubscriber), ?_, ?_, ?_, h.kept.cons_cons _,
    h.once, ?_⟩
  · intro t
    have hput := mem_subscribersOf_put c k
      ((c.entryFor k endpoint args now).watchedBy c.nextSubscriber) t.key t.id
    refine hput.trans ?_
    rw [List.mem_cons]
    have hticket : t = (c.subscribe k endpoint args now).1 ↔
        t.key = k ∧ t.id = c.nextSubscriber := Ticket.eq_iff
    rw [hticket]
    by_cases hk : t.key = k
    · rw [if_pos hk, Entry.mem_watchedBy, mem_entryFor, ← h.seats, hk]
      simp
    · rw [if_neg hk, h.seats]
      simp [hk]
  · intro t ht
    rcases List.mem_cons.mp ht with rfl | hold
    · exact Nat.lt_succ_self _
    · exact Nat.lt_succ_of_lt (h.given t hold)
  · exact List.pairwise_cons.mpr ⟨h.given, h.falling⟩
  · intro t ht
    obtain ⟨hissued, hleft⟩ := h.gone t ht
    refine ⟨List.mem_cons_of_mem _ hissued, fun hmem => ?_⟩
    rcases List.mem_cons.mp hmem with rfl | hold
    · exact hnew hissued
    · exact hleft hold

/-- Who leaves no longer holds the ticket, and has returned it if it was taken back. -/
theorem unsubscribe (h : c.Accounts issued held returned) (t : Ticket) (now : Nat) :
    (c.unsubscribe t now).2.Accounts issued (held.filter (· ≠ t))
      (if (c.unsubscribe t now).1.isSome then t :: returned else returned) := by
  rcases c.unsubscribe_cases t now with ⟨e, hread, hmem, heq⟩ | ⟨habsent, heq⟩
  · have hheld : t ∈ held := (h.seats t).mp (mem_subscribersOf.mpr ⟨e, hread, hmem⟩)
    rw [heq]
    refine ⟨filed_put h.filed ((h.filed _ e hread).leftBy hmem now), ?_, h.given, h.falling,
      List.filter_sublist.trans h.kept, ?_, ?_⟩
    · intro u
      rw [mem_subscribersOf_put, List.mem_filter, ← h.seats u, mem_subscribersOf]
      have hother : decide (u ≠ t) = true ↔ ¬ (u.key = t.key ∧ u.id = t.id) := by
        rw [decide_eq_true_iff, ne_eq, Ticket.eq_iff]
      rw [hother]
      by_cases hk : u.key = t.key
      · rw [if_pos hk, Entry.mem_leftBy, hk]
        simp [hread, and_comm]
      · rw [if_neg hk]
        simp [hk]
    · refine List.nodup_cons.mpr ⟨fun hagain => ?_, h.once⟩
      exact (h.gone t hagain).2 hheld
    · intro u hu
      rcases List.mem_cons.mp hu with rfl | hold
      · exact ⟨h.kept.subset hheld, by simp⟩
      · obtain ⟨hissued, hleft⟩ := h.gone u hold
        exact ⟨hissued, fun hstill => hleft (List.mem_filter.mp hstill).1⟩
  · -- Who is not there holds no ticket, so nothing is taken from those held.
    have hsame : held.filter (· ≠ t) = held := by
      refine List.filter_eq_self.mpr fun u hu => ?_
      have hother : u ≠ t := by
        rintro rfl
        exact habsent ((h.seats u).mpr hu)
      simpa using hother
    rw [heq, hsame]
    exact h

/-- Dropping an entry that is unused leaves everyone in place. -/
theorem evict (h : c.Accounts issued held returned) (k : Key) (now : Nat) :
    (c.evict k now).2.Accounts issued held returned := by
  unfold Cache.evict
  split
  · rename_i hevictable
    have hdropped : ∀ k' ∈ [k], c.isEvictable k' now = true := by
      intro k' hk'
      rw [List.mem_singleton.mp hk']
      exact hevictable
    refine h.drop hdropped rfl fun k' => ?_
    simp only [List.mem_singleton]
    exact read_remove c k k'
  · exact h

/-- Dropping all entries that are unused leaves everyone in place. -/
theorem collect (h : c.Accounts issued held returned) (now : Nat) :
    (c.collect now).2.Accounts issued held returned := by
  refine h.drop (fun k hk => (List.mem_filter.mp hk).2) ?_ fun k => Session.read_removes _ c k
  have hnext : ∀ (l : List Key) (c : Cache),
      (l.foldl remove c).nextSubscriber = c.nextSubscriber := by
    intro l
    induction l with
    | nil => exact fun _ => rfl
    | cons k l ih => exact fun c => ih (c.remove k)
  exact hnext _ c

/-- When all is cleared nobody holds a ticket. -/
theorem clear (h : c.Accounts issued held returned) : c.clear.Accounts issued [] returned where
  filed := fun k e hread => by simp [Cache.clear, read] at hread
  seats := fun t => by simp [subscribersOf, Cache.clear, read]
  given := h.given
  falling := h.falling
  kept := List.nil_sublist _
  once := h.once
  gone := fun t ht => ⟨(h.gone t ht).1, List.not_mem_nil⟩

end Accounts

/-! ## What the tickets say -/

namespace Accounts

/-- Later subscribers have higher numbers. -/
theorem seated_ascending (h : c.Accounts issued held returned) (k : Key) :
    (seated held k).Pairwise (· < ·) := by
  have hfalling : held.Pairwise fun t u => u.id < t.id := h.falling.sublist h.kept
  unfold seated
  rw [List.pairwise_reverse, List.pairwise_map]
  exact hfalling.sublist List.filter_sublist

/-- The subscribers of a key are those who hold a ticket of it, in the order in which they came. -/
theorem subscribersOf_eq (h : c.Accounts issued held returned) (k : Key) :
    c.subscribersOf k = seated held k := by
  have hascending : (c.subscribersOf k).Pairwise (· < ·) := by
    unfold subscribersOf
    cases c.read k with
    | none => exact .nil
    | some e => exact Std.ExtTreeSet.ordered_toList.imp fun hlt => Std.compare_eq_lt.mp hlt
  refine hascending.eq_of_mem_iff (h.seated_ascending k) fun id => ?_
  have hseated : id ∈ seated held k ↔ (⟨id, k⟩ : Ticket) ∈ held := by
    simp only [seated, List.mem_reverse, List.mem_map, List.mem_filter, decide_eq_true_eq]
    constructor
    · rintro ⟨t, ⟨hmem, rfl⟩, rfl⟩
      exact hmem
    · intro hmem
      exact ⟨⟨id, k⟩, ⟨hmem, rfl⟩, rfl⟩
  rw [hseated]
  exact h.seats ⟨id, k⟩

/-- An entry has as many subscribers as tickets are held of it. -/
theorem size_eq (h : c.Accounts issued held returned) {e : Entry} (hread : c.read k = some e) :
    e.subscribers.size = held.countP fun t => t.key = k := by
  have hlist : e.subscribers.toList = seated held k := by
    rw [← h.subscribersOf_eq k, subscribersOf, hread]
    rfl
  rw [← Std.ExtTreeSet.length_toList, hlist, seated, List.length_reverse, List.length_map,
    List.countP_eq_length_filter]

/-- An entry is on record as unused just when it has no subscribers. -/
theorem unused_iff (h : c.Accounts issued held returned) {e : Entry} (hread : c.read k = some e) :
    e.unusedSince.isSome ↔ e.subscribers.size = 0 := by
  rw [← Std.ExtTreeSet.eq_empty_iff_size_eq_zero]
  exact (h.filed k e hread).unused

/-- A change is told to those who hold a ticket. -/
theorem told_eq (h : c.Accounts issued held returned) (k : Key) (change : Entry.Change) :
    (c.write k change.make).1 = (c.read k).map fun _ => seated held k := by
  have hseated := h.subscribersOf_eq k
  unfold subscribersOf at hseated
  unfold Cache.write
  cases hread : c.read k with
  | none => rfl
  | some e =>
      rw [hread] at hseated
      simpa using hseated

/-- A key of which a ticket is held has its entry, and that is not dropped. -/
theorem stays (h : c.Accounts issued held returned) (ht : t ∈ held) (now : Nat) :
    (c.read t.key).isSome ∧ c.evict t.key now = (false, c) ∧ t.key ∉ (c.collect now).1 ∧
      (c.collect now).2.read t.key = c.read t.key := by
  have hthere := (h.seats t).mpr ht
  obtain ⟨e, hread, -⟩ := mem_subscribersOf.mp hthere
  have hkept : c.isEvictable t.key now = false := by
    cases hevictable : c.isEvictable t.key now with
    | false => rfl
    | true => exact absurd hthere (subscribersOf_of_isEvictable hevictable t.id)
  have hnotin : t.key ∉ (c.collect now).1 := by
    intro hmem
    have hevictable := (List.mem_filter.mp hmem).2
    rw [hkept] at hevictable
    cases hevictable
  refine ⟨by rw [hread]; rfl, by rw [Cache.evict, hkept]; rfl, hnotin, ?_⟩
  exact (Session.read_removes _ _ _).trans (if_neg hnotin)

end Accounts

/-- Whatever a cache was asked for, it is accounted for. -/
theorem accounts_after (keep : Nat) (calls : Calls) :
    (after keep calls).Accounts (Cache.issued keep calls) (Cache.held keep calls)
      (Cache.returned keep calls) := by
  induction calls with
  | nil =>
      exact ⟨fun k e hread => by simp [after, Cache.empty, read] at hread,
        fun t => by simp [subscribersOf, after, Cache.empty, read, Cache.held],
        nofun, .nil, .slnil, .nil, nofun⟩
  | cons call calls ih =>
      obtain ⟨now, call⟩ := call
      cases call with
      | ensure k endpoint args => exact ih.ensure k endpoint args now
      | subscribe k endpoint args => exact ih.subscribe k endpoint args now
      | unsubscribe t => exact ih.unsubscribe t now
      | write k change => exact ih.write k change
      | evict k => exact ih.evict k now
      | collect => exact ih.collect now
      | clear => exact ih.clear

end Cache

end QueryCache
