import QueryCache.Proofs.Timeline
/-!
# Timelines move by move

Letting time pass is a loop: what is ready is done, and when there is nothing left the clock goes on
to the next alarm.  Here each turn of the loop is a `Move` of its own, and so is each demand that is
met at once.  Between any two moves the timeline can be looked at, so what holds after all lists of
moves holds at all times, not only when a demand has been met (`moved_grants`).

Waiting for a viewer's entry to change is left out.  That wait ends by breaking off, with alarms of
that very moment still to go off.
-/

namespace QueryCache.Timeline

variable {σ : Type}

/-- Whether a demand is met at once. -/
def Demand.isBrief : Demand → Bool
  | .pass _ | .awaitChange _ _ | .awaitOutcome _ => false
  | _ => true

inductive Move where
  | ask (d : Demand) (hbrief : d.isBrief = true)
  /-- The next job that is ready is done. -/
  | work
  /-- Nothing is ready, and the clock goes on to the next alarm, or to a time before it. -/
  | wait (limit : Nat)

namespace Move

def subscribe (name : String) (args : Json) : Move := .ask (.subscribe name args) rfl

def unsubscribe (ticket : Ticket) : Move := .ask (.unsubscribe ticket) rfl

def reset : Move := .ask .reset rfl

end Move

def move (t : Timeline σ) : Move → Timeline σ
  | .ask d _ => t.grant d
  | .work => match t.agenda.pop? with
    | some (job, agenda) => Timeline.work job { t with agenda := agenda }
    | none => t
  | .wait limit => match t.agenda.pop? with
    | some _ => t
    | none => match t.agenda.wake? limit with
      | some agenda => { t with agenda := agenda }
      | none => { t with agenda := { t.agenda with now := max t.agenda.now limit } }

/-- A timeline after these moves, the latest first. -/
def moved (t : Timeline σ) : List Move → Timeline σ
  | [] => t
  | m :: h => (t.moved h).move m

/-- Moves are made one after the other. -/
theorem moved_append (t : Timeline σ) (h h' : List Move) :
    t.moved (h' ++ h) = (t.moved h).moved h' := by
  induction h' with
  | nil => rfl
  | cons m h' ih => exact congrArg (move · m) ih

/-- What comes about by moves. -/
def Leads (t t' : Timeline σ) : Prop := ∃ h, t' = t.moved h

variable {t t' t'' : Timeline σ}

theorem Leads.refl (t : Timeline σ) : t.Leads t := ⟨[], rfl⟩

/-- What comes about by moves from what has come about by moves does so, too. -/
theorem Leads.trans (h : t.Leads t') (h' : t'.Leads t'') : t.Leads t'' := by
  obtain ⟨l, rfl⟩ := h
  obtain ⟨l', rfl⟩ := h'
  exact ⟨l' ++ l, (moved_append t l l').symm⟩

theorem leads_move (t : Timeline σ) (m : Move) : t.Leads (t.move m) := ⟨[m], rfl⟩

/-- The next job that is ready is done. -/
theorem move_work {job : Job} {agenda : Agenda Job} (hpop : t.agenda.pop? = some (job, agenda)) :
    t.move .work = Timeline.work job { t with agenda := agenda } := by
  simp only [move, hpop]

/-- With nothing ready, the clock goes on to the next alarm. -/
theorem move_wake {agenda : Agenda Job} {limit : Nat} (hpop : t.agenda.pop? = none)
    (hwake : t.agenda.wake? limit = some agenda) :
    t.move (.wait limit) = { t with agenda := agenda } := by
  simp only [move, hpop, hwake]

/-- With no alarm either, it goes on to the time itself. -/
theorem move_rest {limit : Nat} (hpop : t.agenda.pop? = none)
    (hwake : t.agenda.wake? limit = none) : t.move (.wait limit) =
      { t with agenda := { t.agenda with now := max t.agenda.now limit } } := by
  simp only [move, hpop, hwake]

/-- Each turn of the loop is a move. -/
theorem leads_elapse (t : Timeline σ) (limit steps : Nat) :
    t.Leads (Timed.elapse Timeline.work limit steps t) := by
  induction steps generalizing t with
  | zero => exact .refl t
  | succ steps ih =>
      unfold Timed.elapse
      cases hpop : t.agenda.pop? with
      | some next =>
          have hmove := t.leads_move .work
          rw [move_work hpop] at hmove
          exact hmove.trans (ih _)
      | none =>
          have hmove := t.leads_move (.wait limit)
          cases hwake : t.agenda.wake? limit with
          | some agenda =>
              rw [move_wake hpop hwake] at hmove
              exact hmove.trans (ih _)
          | none =>
              rw [move_rest hpop hwake] at hmove
              exact hmove

/-- Waiting for an outcome is a row of moves. -/
theorem leads_awaitOutcome (t : Timeline σ) (alarms : Nat) :
    t.Leads (t.awaitOutcome alarms).2 := by
  induction alarms generalizing t with
  | zero => exact .refl t
  | succ alarms ih =>
      have hsettle : t.Leads t.settle := t.leads_elapse _ _
      unfold Timeline.awaitOutcome
      simp only
      split
      · exact hsettle
      · exact (hsettle.trans (leads_elapse _ _ _)).trans (ih _)
      · exact hsettle

/-- Every demand is a row of moves, but that of a change to wait for. -/
theorem leads_grant (t : Timeline σ) {d : Demand} (hd : ∀ patience v, d ≠ .awaitChange patience v) :
    t.Leads (t.grant d) := by
  by_cases hbrief : d.isBrief = true
  · exact t.leads_move (.ask d hbrief)
  · cases d with
    | pass duration => exact t.leads_elapse _ _
    | awaitOutcome alarms => exact t.leads_awaitOutcome alarms
    | awaitChange patience v => exact absurd rfl (hd patience v)
    | _ => exact absurd rfl hbrief

/-- **Whatever is asked of a timeline comes about by moves.** -/
theorem moved_grants (t : Timeline σ) (demands : List Demand)
    (hdemands : ∀ patience v, .awaitChange patience v ∉ demands) :
    ∃ h, demands.foldl grant t = t.moved h := by
  change t.Leads (demands.foldl grant t)
  induction demands generalizing t with
  | nil => exact .refl t
  | cons d demands ih =>
      have hd : ∀ patience v, d ≠ .awaitChange patience v := by
        rintro patience v rfl
        exact hdemands patience v List.mem_cons_self
      exact (t.leads_grant hd).trans
        (ih (t.grant d) fun patience v hin => hdemands patience v (List.mem_cons_of_mem d hin))

/-- Every move is a few events. -/
theorem Reached.move {setup : Setup} {past : History} (h : t.Reached setup past) (m : Move) :
    (t.move m).Reached setup past := by
  cases m with
  | ask d hbrief => exact h.grant d
  | work =>
      cases hpop : t.agenda.pop? with
      | some next =>
          have hpopped : Reached setup past { t with agenda := next.2 } := h.of_same rfl rfl rfl
          rw [move_work hpop]
          exact hpopped.work next.1
      | none =>
          simp only [Timeline.move, hpop]
          exact h
  | wait limit =>
      unfold Timeline.move
      simp only
      split
      · exact h
      · split <;> exact h.of_same rfl rfl rfl

/-- What moves lead to is a timeline that has been reached. -/
theorem reached_moved (setup : Setup) (answer : Request → σ → Reply × σ) (server : σ)
    (h : List Move) : ((start setup answer server).moved h).Reached setup [] := by
  induction h with
  | nil => exact reached_start setup answer server
  | cons m h ih => exact ih.move m

/-- A server that answers everything at once, and always the same. -/
def prompt (_ : Request) (_ : Unit) : Reply × Unit := (⟨.ok .null, 0⟩, ())

/-- Up to eight jobs that are ready are done, and then the clock goes on. -/
def settledUntil (limit : Nat) : List Move := .wait limit :: List.replicate 8 .work

end QueryCache.Timeline
