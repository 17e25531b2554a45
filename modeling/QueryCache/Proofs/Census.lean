import QueryCache.Proofs.Tickets
/-!
# Counts, subscribers and moments, each in a place of its own

That an entry is watched can be kept in three places: a count with the entry, the moment since when
the count is zero, and the subscribers in a table of their own, where an entry without any has no
row.  A `Census` keeps them so.  Its operations change one after the other, and give up in between
where something is missing.

The census of a cache (`Cache.census`) is what it would have in these places.  Every call answers the
same from either, and leaves the census of what it leaves of the cache (`serve_census`): nothing is
ever missing.  It takes that the cache is accounted for: who subscribes must be new, or the count
would run ahead of the table, and an entry must be under its own key, or another is dropped with it.

`tickets_accounted` — whatever was asked for, entries, counts and answers are what the tickets say.
-/

namespace QueryCache

theorem KeyMap.getElem?_put {α : Type} (m : KeyMap α) (k : Key) (v : α) (k' : Key) :
    (m.insert k v)[k']? = if k' = k then some v else m[k']? := by
  rw [Std.ExtTreeMap.getElem?_insert]
  by_cases hk : k' = k
  · simp [hk]
  · simp [hk, Ne.symm hk]

theorem KeyMap.getElem?_drop {α : Type} (m : KeyMap α) (k k' : Key) :
    (m.erase k)[k']? = if k' = k then none else m[k']? := by
  rw [Std.ExtTreeMap.getElem?_erase]
  by_cases hk : k' = k
  · simp [hk]
  · simp [hk, Ne.symm hk]

theorem KeyMap.getElem?_of {α : Type} {m : KeyMap α} {k : Key} {o : Option α} (h : m[k]? = o)
    (k' : Key) : m[k']? = if k' = k then o else m[k']? := by
  split
  · rename_i hk
    rw [hk, h]
  · rfl

/-- What a census has for an entry. -/
structure Census.Row where
  key : Key
  count : Nat
  unusedSince : Option Nat
deriving DecidableEq, Repr

structure Census where
  rows : KeyMap Census.Row
  /-- The subscribers of the keys that have any. -/
  seats : KeyMap (Std.ExtTreeSet Nat)
  nextSubscriber : Nat
  keep : Nat

namespace Census

def Row.ofEntry (e : Entry) : Row := ⟨e.key, e.subscribers.size, e.unusedSince⟩

def Row.isEvictable (r : Row) (now grace : Nat) : Bool :=
  r.count == 0 && match r.unusedSince with
    | some since => grace ≤ now - since
    | none => false

def empty (keep : Nat) : Census := ⟨∅, ∅, 1, keep⟩

def ensure (l : Census) (k : Key) (now : Nat) : Census :=
  match l.rows[k]? with
  | some _ => l
  | none => { l with rows := l.rows.insert k ⟨k, 0, some now⟩ }

def subscribe (l : Census) (k : Key) (now : Nat) : Ticket × Census :=
  let l := l.ensure k now
  let id := l.nextSubscriber
  (⟨id, k⟩,
    { l with
      nextSubscriber := id + 1
      seats := l.seats.insert k ((l.seats[k]?.getD ∅).insert id)
      rows := match l.rows[k]? with
        | some r => l.rows.insert k ⟨r.key, r.count + 1, none⟩
        | none => l.rows })

def unsubscribe (l : Census) (t : Ticket) (now : Nat) : Option Nat × Census :=
  match l.seats[t.key]? with
  | none => (none, l)
  | some present =>
    if t.id ∈ present then
      let rest := present.erase t.id
      let l := { l with
        seats := if rest.isEmpty then l.seats.erase t.key else l.seats.insert t.key rest }
      match l.rows[t.key]? with
      | none => (none, l)
      | some r =>
        let count := r.count - 1
        let unusedSince := if count = 0 then some now else r.unusedSince
        (some count,
          { l with rows := l.rows.insert t.key ⟨r.key, count, unusedSince⟩ })
    else (none, l)

def subscribersOf (l : Census) (k : Key) : List Nat :=
  (l.seats[k]?.map fun present => present.toList).getD []

/-- Who is told of a change.  A change leaves the row of the entry as it is. -/
def write (l : Census) (k : Key) : Option (List Nat) := l.rows[k]?.map fun _ => l.subscribersOf k

def remove (l : Census) (k : Key) : Census :=
  { l with rows := l.rows.erase k, seats := l.seats.erase k }

def evict (l : Census) (k : Key) (now : Nat) : Bool × Census :=
  if (l.rows[k]?.map fun r => r.isEvictable now l.keep).getD false then (true, l.remove k)
  else (false, l)

/-- Drops every entry that has been unused for the whole grace period, by the key it has itself. -/
def collect (l : Census) (now : Nat) : List Key × Census :=
  let rows := l.rows.toList.map Prod.snd
  let expired := (rows.filter fun r => r.isEvictable now l.keep).map Row.key
  (expired, expired.foldl remove l)

def clear (l : Census) : Census := { l with rows := ∅, seats := ∅ }

/-- Does what a cache can be asked for. -/
def serve (l : Census) (now : Nat) : Cache.Call → Cache.Answer × Census
  | .ensure k _ _ => (.done, l.ensure k now)
  | .subscribe k _ _ => (.issued (l.subscribe k now).1, (l.subscribe k now).2)
  | .unsubscribe t => (.left (l.unsubscribe t now).1, (l.unsubscribe t now).2)
  | .write k _ => (.told (l.write k), l)
  | .evict k => (.dropped (if (l.evict k now).1 then [k] else []), (l.evict k now).2)
  | .collect => (.dropped (l.collect now).1, (l.collect now).2)
  | .clear => (.done, l.clear)

def after (keep : Nat) : Cache.Calls → Census
  | [] => .empty keep
  | (now, call) :: calls => ((after keep calls).serve now call).2

/-- Two censuses are the same if they have the same for every key. -/
theorem ext_rows {l l' : Census} (hrows : ∀ k : Key, l.rows[k]? = l'.rows[k]?)
    (hseats : ∀ k : Key, l.seats[k]? = l'.seats[k]?) (hnext : l.nextSubscriber = l'.nextSubscriber)
    (hkeep : l.keep = l'.keep) : l = l' := by
  obtain ⟨rows, seats, next, keep⟩ := l
  obtain ⟨rows', seats', next', keep'⟩ := l'
  obtain rfl : rows = rows' := Std.ExtTreeMap.ext_getElem? hrows
  obtain rfl : seats = seats' := Std.ExtTreeMap.ext_getElem? hseats
  obtain rfl : next = next' := hnext
  obtain rfl : keep = keep' := hkeep
  rfl

end Census

namespace Cache

open Census (Row)

/-- What a cache has in the places of a census. -/
def census (c : Cache) : Census where
  rows := c.entries.map fun _ e => Row.ofEntry e
  seats := c.entries.filterMap fun _ e =>
    if e.subscribers.isEmpty then none else some e.subscribers
  nextSubscriber := c.nextSubscriber
  keep := c.keep

variable {c c' : Cache} {l : Census} {issued held returned : List Ticket} {k : Key} {e : Entry}

/-- A row of the census is made from the entry of its key. -/
theorem rows_census (c : Cache) (k : Key) : c.census.rows[k]? = (c.read k).map Row.ofEntry := by
  unfold census read
  rw [Std.ExtTreeMap.getElem?_map]

/-- The table has a row for the keys with subscribers alone. -/
theorem seats_census (c : Cache) (k : Key) : c.census.seats[k]? = (c.read k).bind fun e =>
    if e.subscribers.isEmpty then none else some e.subscribers := by
  unfold census read
  simp

/-- The table has exactly the subscribers of the entry. -/
theorem getD_seats_census (hread : c.read k = some e) :
    c.census.seats[k]?.getD ∅ = e.subscribers := by
  rw [seats_census, hread, Option.bind_some]
  split
  · rename_i hempty
    exact (Std.ExtTreeSet.isEmpty_iff.mp hempty).symm
  · rfl

/-- The subscribers of a key are those of its entry. -/
theorem subscribersOf_census (c : Cache) (k : Key) :
    c.census.subscribersOf k = c.subscribersOf k := by
  unfold Census.subscribersOf subscribersOf
  rw [seats_census]
  cases c.read k with
  | none => rfl
  | some e =>
      rw [Option.bind_some]
      split
      · rename_i hempty
        simp [Std.ExtTreeSet.isEmpty_iff.mp hempty]
      · rfl

/-- One entry is exchanged, with its row and its seats. -/
theorem eq_census (hread : ∀ k', c'.read k' = if k' = k then some e else c.read k')
    (hrows : ∀ k' : Key, l.rows[k']? = if k' = k then some (Row.ofEntry e) else c.census.rows[k']?)
    (hseats : ∀ k' : Key, l.seats[k']? =
      if k' = k then if e.subscribers.isEmpty then none else some e.subscribers
      else c.census.seats[k']?)
    (hnext : l.nextSubscriber = c'.nextSubscriber) (hkeep : l.keep = c'.keep) :
    l = c'.census := by
  refine Census.ext_rows (fun k' => ?_) (fun k' => ?_) hnext hkeep
  · rw [hrows, rows_census, rows_census, hread]
    split <;> rfl
  · rw [hseats, seats_census, seats_census, hread]
    split <;> rfl

/-- Making an entry makes its row. -/
theorem ensure_census (c : Cache) (k : Key) (endpoint : String) (args : Json) (now : Nat) :
    c.census.ensure k now = (c.ensure k endpoint args now).census := by
  have hrow := c.rows_census k
  have hseat := c.seats_census k
  unfold Census.ensure ensure entryFor
  cases hread : c.read k with
  | none =>
      rw [hread] at hrow hseat
      rw [hrow]
      refine eq_census (c.read_put k _) (fun k' => ?_) (fun k' => ?_) rfl rfl
      · exact KeyMap.getElem?_put _ k _ k'
      · exact KeyMap.getElem?_of hseat k'
  | some e =>
      rw [hread] at hrow hseat
      rw [hrow]
      exact eq_census (c.read_put k _) (KeyMap.getElem?_of hrow) (KeyMap.getElem?_of hseat) rfl rfl

/-- Who subscribes is new, so the count grows with the table. -/
theorem subscribe_census (h : c.Accounts issued held returned) (k : Key) (endpoint : String)
    (args : Json) (now : Nat) : c.census.subscribe k now =
      ((c.subscribe k endpoint args now).1, (c.subscribe k endpoint args now).2.census) := by
  let e := c.entryFor k endpoint args now
  let made := c.ensure k endpoint args now
  have hmade : made.read k = some e := (c.read_put k e k).trans (if_pos rfl)
  have hnew : c.nextSubscriber ∉ e.subscribers := by
    rw [mem_entryFor]
    intro hmem
    exact h.fresh rfl (h.kept.subset ((h.seats ⟨c.nextSubscriber, k⟩).mp hmem))
  have hrow : made.census.rows[k]? = some (Row.ofEntry e) := by
    rw [rows_census, hmade]
    rfl
  have hread : ∀ k', (c.subscribe k endpoint args now).2.read k' =
      if k' = k then some (e.watchedBy c.nextSubscriber) else made.read k' := by
    intro k'
    refine (c.read_put k (e.watchedBy c.nextSubscriber) k').trans ?_
    split
    · rfl
    · rename_i hk
      exact ((c.read_put k e k').trans (if_neg hk)).symm
  unfold Census.subscribe
  rw [show c.census.ensure k now = made.census from c.ensure_census k endpoint args now]
  refine Prod.ext rfl (eq_census hread (fun k' => ?_) (fun k' => ?_) rfl rfl)
  · have hsize : (e.subscribers.insert c.nextSubscriber).size = e.subscribers.size + 1 := by
      rw [Std.ExtTreeSet.size_insert, if_neg (by simpa using hnew)]
    simp only [hrow, KeyMap.getElem?_put, Row.ofEntry, Entry.watchedBy, hsize]
  · have hsome : (e.subscribers.insert c.nextSubscriber).isEmpty = false := by simp
    simp only [getD_seats_census hmade, KeyMap.getElem?_put, Entry.watchedBy, hsome]
    rfl

/-- A ticket that is not held is good for nothing in the census either. -/
theorem not_mem_seats_census {c : Cache} {t : Ticket} (habsent : t.id ∉ c.subscribersOf t.key)
    {present : Std.ExtTreeSet Nat} (hseat : c.census.seats[t.key]? = some present) :
    t.id ∉ present := by
  intro hmem
  cases hread : c.read t.key with
  | none =>
      rw [seats_census, hread] at hseat
      cases hseat
  | some e =>
      have hsame : present = e.subscribers := by
        rw [← getD_seats_census hread, hseat]
        rfl
      rw [hsame] at hmem
      exact habsent (mem_subscribersOf.mpr ⟨e, hread, hmem⟩)

/-- A subscriber who goes leaves count and table alike. -/
theorem unsubscribe_census (c : Cache) (t : Ticket) (now : Nat) :
    c.census.unsubscribe t now = ((c.unsubscribe t now).1, (c.unsubscribe t now).2.census) := by
  rcases c.unsubscribe_cases t now with ⟨e, hread, hmem, heq⟩ | ⟨habsent, heq⟩
  · have hpresent : e.subscribers.isEmpty = false := by
      cases hempty : e.subscribers.isEmpty with
      | false => rfl
      | true =>
          rw [Std.ExtTreeSet.isEmpty_iff.mp hempty] at hmem
          cases Std.ExtTreeSet.not_mem_empty hmem
    have hseat : c.census.seats[t.key]? = some e.subscribers := by
      rw [seats_census, hread, Option.bind_some, hpresent]
      rfl
    have hrow : c.census.rows[t.key]? = some (Row.ofEntry e) := by
      rw [rows_census, hread]
      rfl
    have hsize : (e.subscribers.erase t.id).size = e.subscribers.size - 1 := by
      rw [Std.ExtTreeSet.size_erase, if_pos (Std.ExtTreeSet.mem_iff_contains.mp hmem)]
    have hzero : (e.subscribers.size - 1 = 0) = ((e.subscribers.erase t.id).isEmpty = true) := by
      rw [← hsize, ← Std.ExtTreeSet.eq_empty_iff_size_eq_zero, Std.ExtTreeSet.isEmpty_iff]
    have hseats : ∀ k' : Key, (if (e.subscribers.erase t.id).isEmpty then c.census.seats.erase t.key
        else c.census.seats.insert t.key (e.subscribers.erase t.id))[k']? =
        if k' = t.key then
          if (e.subscribers.erase t.id).isEmpty then none else some (e.subscribers.erase t.id)
        else c.census.seats[k']? := by
      intro k'
      split
      · exact KeyMap.getElem?_drop _ _ k'
      · exact KeyMap.getElem?_put _ _ _ k'
    rw [heq]
    unfold Census.unsubscribe
    simp only [hseat, hmem, if_true, hrow]
    refine Prod.ext (congrArg some hsize.symm)
      (eq_census (c.read_put t.key _) (fun k' => ?_) (fun k' => ?_) rfl rfl)
    · simp only [KeyMap.getElem?_put, Row.ofEntry, Entry.leftBy, hsize, hzero]
    · exact hseats k'
  · rw [heq]
    unfold Census.unsubscribe
    cases hseat : c.census.seats[t.key]? with
    | none => rfl
    | some present => exact if_neg (not_mem_seats_census habsent hseat)

/-- A change of an entry tells the same subscribers. -/
theorem write_census (c : Cache) (k : Key) (change : Entry.Change) :
    c.census.write k = (c.write k change.make).1 ∧
      c.census = (c.write k change.make).2.census := by
  have hrow := c.rows_census k
  have hseat := c.seats_census k
  unfold Census.write Cache.write
  cases hread : c.read k with
  | none =>
      rw [hread] at hrow
      rw [hrow]
      exact ⟨rfl, rfl⟩
  | some e =>
      rw [hread] at hrow hseat
      have hlist : c.census.subscribersOf k = (change.make e).subscribers.toList := by
        rw [subscribersOf_census, subscribersOf, hread, change.make_subscribers]
        rfl
      have hsame : Row.ofEntry (change.make e) = Row.ofEntry e := by simp [Row.ofEntry]
      refine ⟨by rw [hrow, hlist]; rfl, eq_census (c.read_put k _) ?_ ?_ rfl rfl⟩
      · rw [hsame]
        exact KeyMap.getElem?_of hrow
      · rw [change.make_subscribers]
        exact KeyMap.getElem?_of hseat

/-- Whether an entry can be dropped is told by its row. -/
theorem isEvictable_ofEntry (e : Entry) (now grace : Nat) :
    (Row.ofEntry e).isEvictable now grace = e.isEvictable now grace := by
  have hcount : (e.subscribers.size == 0) = !e.isWatched := by
    rw [Entry.isWatched, Bool.not_not, Std.ExtTreeSet.isEmpty_eq_size_beq_zero]
  cases hsince : e.unusedSince with
  | none => simp [Row.isEvictable, Row.ofEntry, Entry.isEvictable, hsince]
  | some since => simp only [Row.isEvictable, Row.ofEntry, Entry.isEvictable, hsince, hcount]

/-- An entry that is removed takes its row and its subscribers along. -/
theorem remove_census (c : Cache) (k : Key) : c.census.remove k = (c.remove k).census := by
  refine Census.ext_rows (fun k' => ?_) (fun k' => ?_) rfl rfl
  · unfold Census.remove
    rw [KeyMap.getElem?_drop, rows_census, rows_census, read_remove]
    split <;> rfl
  · unfold Census.remove
    rw [KeyMap.getElem?_drop, seats_census, seats_census, read_remove]
    split <;> rfl

/-- Entries that are removed take their rows and subscribers along. -/
theorem removes_census (keys : List Key) (c : Cache) :
    keys.foldl Census.remove c.census = (keys.foldl remove c).census := by
  induction keys generalizing c with
  | nil => rfl
  | cons k keys ih => rw [List.foldl_cons, List.foldl_cons, remove_census, ih]

/-- An eviction answers the same, and drops the same. -/
theorem evict_census (c : Cache) (k : Key) (now : Nat) :
    c.census.evict k now = ((c.evict k now).1, (c.evict k now).2.census) := by
  have hevictable : (c.census.rows[k]?.map fun r => r.isEvictable now c.census.keep).getD false =
      c.isEvictable k now := by
    rw [rows_census, Option.map_map]
    unfold isEvictable
    cases c.read k with
    | none => rfl
    | some e => exact isEvictable_ofEntry e now c.keep
  unfold Census.evict evict
  rw [hevictable]
  split
  · exact Prod.ext rfl (c.remove_census k)
  · rfl

/-- Every entry is under its own key, so it is the one that is dropped. -/
theorem collect_census (hfiled : ∀ k e, c.read k = some e → e.Filed k) (now : Nat) :
    c.census.collect now = ((c.collect now).1, (c.collect now).2.census) := by
  have hread : ∀ p ∈ c.entries.toList, c.read p.1 = some p.2 := fun p hp =>
    Std.ExtTreeMap.mem_toList_iff_getElem?_eq_some.mp hp
  have hexpired : (c.census.collect now).1 = (c.collect now).1 := by
    have hrows : c.census.rows.toList = c.entries.toList.map fun p => (p.1, Row.ofEntry p.2) :=
      Std.ExtTreeMap.toList_map
    have hkeys : c.keys = c.entries.toList.map Prod.fst :=
      Std.ExtTreeMap.map_fst_toList_eq_keys.symm
    simp only [Census.collect, collect, hrows, hkeys, List.map_map, List.filter_map]
    have hsame : c.entries.toList.filter
        ((fun r => r.isEvictable now c.census.keep) ∘ Prod.snd ∘ fun p => (p.1, Row.ofEntry p.2)) =
        c.entries.toList.filter ((fun k => c.isEvictable k now) ∘ Prod.fst) := by
      refine List.filter_congr fun p hp => ?_
      have hevictable := isEvictable_ofEntry p.2 now c.keep
      simp only [Function.comp_apply, isEvictable, hread p hp, Option.map_some, Option.getD_some]
      exact hevictable
    rw [hsame]
    exact List.map_congr_left fun p hp =>
      (hfiled p.1 p.2 (hread p (List.mem_filter.mp hp).1)).key
  refine Prod.ext hexpired ?_
  have hdropped : (c.census.collect now).2 =
      (c.census.collect now).1.foldl Census.remove c.census := rfl
  rw [hdropped, hexpired]
  exact removes_census _ c

/-- Nothing is left of either when all is cleared. -/
theorem clear_census (c : Cache) : c.census.clear = c.clear.census := by
  refine Census.ext_rows (fun k => ?_) (fun k => ?_) rfl rfl
  · rw [rows_census]
    simp [Census.clear, clear, read]
  · rw [seats_census]
    simp [Census.clear, clear, read]

/-- **A census answers every call as the cache does**, and has what the cache has then. -/
theorem serve_census (h : c.Accounts issued held returned) (now : Nat) (call : Call) :
    c.census.serve now call = ((c.serve now call).1, (c.serve now call).2.census) := by
  cases call with
  | ensure k endpoint args => exact Prod.ext rfl (c.ensure_census k endpoint args now)
  | subscribe k endpoint args =>
      have hsubscribe := subscribe_census h k endpoint args now
      simp only [Census.serve, hsubscribe, serve]
  | unsubscribe t =>
      have hunsubscribe := c.unsubscribe_census t now
      simp only [Census.serve, hunsubscribe, serve]
  | write k change =>
      obtain ⟨htold, hsame⟩ := c.write_census k change
      exact Prod.ext (congrArg Answer.told htold) hsame
  | evict k =>
      have hevict := c.evict_census k now
      simp only [Census.serve, hevict, serve]
  | collect =>
      have hcollect := collect_census h.filed now
      simp only [Census.serve, hcollect, serve]
  | clear => exact Prod.ext rfl c.clear_census

/-- Whatever was asked for, the census has what the cache has. -/
theorem census_after (keep : Nat) (calls : Calls) :
    Census.after keep calls = (after keep calls).census := by
  induction calls with
  | nil =>
      refine Census.ext_rows (fun k => ?_) (fun k => ?_) rfl rfl
      · rw [rows_census]
        simp [Census.after, Census.empty, after, Cache.empty, read]
      · rw [seats_census]
        simp [Census.after, Census.empty, after, Cache.empty, read]
  | cons call calls ih =>
      unfold Census.after
      rw [ih]
      exact congrArg Prod.snd (serve_census (accounts_after keep calls) call.1 call.2)

/-- What the tickets say of the entries and answers of a cache. -/
structure Bookkeeping (keep : Nat) (calls : Calls) : Prop where
  /-- Every entry is stored under its own key. -/
  key : ∀ k e, (after keep calls).read k = some e → e.key = k
  /-- It has as many subscribers as there are tickets held of it. -/
  count : ∀ k e, (after keep calls).read k = some e →
    e.subscribers.size = (Cache.held keep calls).countP fun t => t.key = k
  /-- It has a moment since when it is unused exactly if it has no subscribers. -/
  unused : ∀ k e, (after keep calls).read k = some e →
    (e.unusedSince.isSome ↔ e.subscribers.size = 0)
  /-- A change of an entry is told to those who hold a ticket of it, in ascending order. -/
  told : ∀ k change, ((after keep calls).write k (Entry.Change.make change)).1 =
    ((after keep calls).read k).map fun _ => seated (Cache.held keep calls) k
  ascending : ∀ k, (seated (Cache.held keep calls) k).Pairwise (· < ·)
  /-- No number is issued twice. -/
  fresh : ((Cache.issued keep calls).map Ticket.id).Nodup
  /-- Nobody leaves twice with a ticket, -/
  once : (Cache.returned keep calls).Nodup
  /-- and nobody with one that has not been issued: -/
  returned_issued : Cache.returned keep calls ⊆ Cache.issued keep calls
  /-- only who holds a ticket can leave with it. -/
  leaves : ∀ t now, ((after keep calls).unsubscribe t now).1.isSome ↔ t ∈ Cache.held keep calls
  /-- If nobody leaves the cache stays as it is. -/
  idle : ∀ t now, ((after keep calls).unsubscribe t now).1 = none →
    ((after keep calls).unsubscribe t now).2 = after keep calls
  /-- The entry of a held ticket is there, and is not dropped. -/
  stays : ∀ t ∈ Cache.held keep calls, ∀ now, ((after keep calls).read t.key).isSome ∧
    (after keep calls).evict t.key now = (false, after keep calls) ∧
    t.key ∉ ((after keep calls).collect now).1 ∧
    ((after keep calls).collect now).2.read t.key = (after keep calls).read t.key
  /-- A census has the same keys, counts and moments, -/
  rows : ∀ (k : Key) (r : Row), (Census.after keep calls).rows[k]? = some r → r.key = k ∧
    r.count = ((Cache.held keep calls).countP fun t => t.key = k) ∧
    (r.unusedSince.isSome ↔ r.count = 0)
  /-- and the same subscribers, -/
  seats : ∀ k, (Census.after keep calls).subscribersOf k = seated (Cache.held keep calls) k
  /-- gives the same answers, -/
  answers : ∀ now call, ((Census.after keep calls).serve now call).1 =
    ((after keep calls).serve now call).1
  /-- and stays as it is if nobody leaves. -/
  idleCensus : ∀ t now, ((Census.after keep calls).unsubscribe t now).1 = none →
    ((Census.after keep calls).unsubscribe t now).2 = Census.after keep calls

/-- **The subscribers of every entry are those who hold a ticket of it**, whatever was asked for and
whatever tickets were shown, and counts and tables kept apart never disagree. -/
theorem tickets_accounted (keep : Nat) (calls : Calls) : Bookkeeping keep calls := by
  have h := accounts_after keep calls
  have hcensus := census_after keep calls
  refine ⟨fun k e hread => (h.filed k e hread).key, fun k e hread => h.size_eq hread,
    fun k e hread => h.unused_iff hread, h.told_eq, h.seated_ascending, ?_, h.once,
    fun t ht => (h.gone t ht).1, fun t now => isSome_unsubscribe_iff.trans (h.seats t),
    fun t now => unsubscribe_of_none, fun t ht now => h.stays ht now, ?_, fun k => ?_, ?_, ?_⟩
  · exact List.pairwise_map.mpr (h.falling.imp fun hlt => Nat.ne_of_gt hlt)
  · intro k r hrow
    rw [hcensus, rows_census] at hrow
    obtain ⟨e, hread, rfl⟩ := Option.map_eq_some_iff.mp hrow
    exact ⟨(h.filed k e hread).key, h.size_eq hread, h.unused_iff hread⟩
  · rw [hcensus, ← h.subscribersOf_eq k]
    exact subscribersOf_census _ k
  · intro now call
    rw [hcensus, serve_census h now call]
  · intro t now hnone
    rw [hcensus, unsubscribe_census] at hnone ⊢
    exact congrArg census (unsubscribe_of_none hnone)

/-- A ticket from before everything was cleared is worth nothing at the entry made since, and the
one issued since is worth something once. -/
example :
    let k : Key := ⟨"getRooms:0"⟩
    let calls : Calls := [(20, .subscribe k "getRooms" .null), (10, .clear),
      (0, .subscribe k "getRooms" .null)]
    Cache.held 60 calls = [⟨2, k⟩] ∧
      ((after 60 calls).serve 30 (.unsubscribe ⟨1, k⟩)).1 = .left none ∧
      ((after 60 calls).serve 30 (.unsubscribe ⟨2, k⟩)).1 = .left (some 0) ∧
      ((after 60 ((30, .unsubscribe ⟨2, k⟩) :: calls)).serve 40 (.unsubscribe ⟨2, k⟩)).1 =
        .left none := by
  decide +kernel

end Cache

end QueryCache
