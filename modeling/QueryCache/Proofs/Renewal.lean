import QueryCache.Web.Gateway

/-!
# One renewal, one replay

A server that writes down what it is asked and what it answers, and renewals that write down what
they bring (`noteAnswer`, `noteRenewal`), are given to a gateway in place of the plain ones.  Then the
record has a line for every message that has reached the server and for every renewal, in order, and
to keep it changes nothing (`dispatches_sends`).

It shows (`renewed_once`) that a request is executed once, or that its execution is answered with 401
and the token renewed once; and only if that succeeds, it is executed once more, whatever that brings.
An execution asks the server once, unless the request has no address to go to or its token fits in no
header line.  What the server is asked is said of the request alone (`Message.StandsFor`), and the
token it carries is the latest that a renewal has brought.
-/

namespace QueryCache.Web

/-! ## The record -/

/-- A line of the record. -/
inductive Line where
  /-- The server was asked this, and this is what it said. -/
  | asked (m : Message) (answer : Answer)
  | renewed (outcome : Except Failure String)

/-- The token that a line brings. -/
def Line.token? : Line → Option String
  | renewed (.ok token) => some token
  | renewed (.error _) | asked _ _ => none

/-- The token that is in use after some lines: the latest that was brought, or else the first. -/
def tokenAfter (first : Option String) (lines : List Line) : Option String :=
  (lines.filterMap Line.token?).getLast?.or first

/-- A request that was sent, what was written down meanwhile, and what came of it. -/
structure Dispatch where
  request : Request
  lines : List Line
  outcome : Except Failure Json

section Spec

variable (base : Url) (token : Option String)

/-- What a message is that asks a server for what a request says: it goes to the request's address and
shows the token, or else the credentials of that address. -/
structure Message.StandsFor (r : Request) (m : Message) : Prop where
  method : m.method = r.method
  address : Gateway.urlFor ⟨base, token⟩ r = .ok m.url
  authorization : m.authorization = (token.map ("Bearer " ++ ·) <|> Gateway.credentials m.url)
  body : m.body = r.body

/-- Whether a request can go out: it has an address that is reached over HTTP, and the token fits in a
header line. -/
def CanGoOut (r : Request) : Prop :=
  ∃ url, Gateway.urlFor ⟨base, token⟩ r = .ok url ∧ url.isHttp ∧ token.all Gateway.isSendable

/-- What it is to execute a request: the lines that this adds, and its outcome. -/
inductive Execution (r : Request) : List Line → Except Failure Json → Prop
  /-- The server is asked, once, for what the request says. -/
  | carried {m : Message} {answer : Answer} (hout : CanGoOut base token r)
      (hm : m.StandsFor base token r) : Execution r [.asked m answer] answer.outcome
  /-- Nothing goes out. -/
  | withheld {why : String} (hout : ¬CanGoOut base token r) :
      Execution r [] (.error (.unreachable why))

/-- What sending a request comes to. -/
inductive Dispatch.Proper : Dispatch → Prop
  /-- It is executed once, and nobody says 401. -/
  | accepted {r lines outcome} (hfirst : Execution base token r lines outcome)
      (htoken : ∀ m body, .asked m (.response 401 body) ∉ lines) : Proper ⟨r, lines, outcome⟩
  /-- The answer is 401 and the token cannot be renewed; the refusal stands. -/
  | refused {r m body f outcome}
      (hfirst : Execution base token r [.asked m (.response 401 body)] outcome) :
      Proper ⟨r, [.asked m (.response 401 body), .renewed (.error f)], outcome⟩
  /-- The answer is 401 and the token is renewed; then all depends on the second execution. -/
  | replayed {r m body new lines outcome outcome'}
      (hfirst : Execution base token r [.asked m (.response 401 body)] outcome)
      (hsecond : Execution base (some new) r lines outcome') :
      Proper ⟨r, .asked m (.response 401 body) :: .renewed (.ok new) :: lines, outcome'⟩

end Spec

/-- The latest token is that of the later lines, or else of the earlier ones. -/
theorem tokenAfter_append (first : Option String) (lines later : List Line) :
    tokenAfter first (lines ++ later) = tokenAfter (tokenAfter first lines) later := by
  simp [tokenAfter, List.getLast?_append, Option.or_assoc]

/-- The token stays while the server is asked and nothing else happens. -/
theorem Execution.tokenAfter_eq {base : Url} {token : Option String} {r : Request}
    {lines : List Line} {outcome : Except Failure Json} (h : Execution base token r lines outcome)
    (first : Option String) : tokenAfter first lines = first := by
  cases h <;> rfl

/-- The server is asked for what the request says, and before that an execution does nothing. -/
theorem Execution.asked {base : Url} {token : Option String} {r : Request} {lines : List Line}
    {outcome : Except Failure Json} (h : Execution base token r lines outcome)
    {earlier later : List Line} {m : Message} {answer : Answer}
    (hlines : lines = earlier ++ .asked m answer :: later) :
    earlier = [] ∧ m.StandsFor base token r := by
  cases h with
  | carried _ hstands =>
      cases earlier with
      | nil =>
          cases hlines
          exact ⟨rfl, hstands⟩
      | cons _ earlier => simp at hlines
  | withheld _ => simp at hlines

/-- An outcome shows that the token is not accepted when the answer was 401. -/
theorem isUnauthorized_outcome (answer : Answer) :
    isUnauthorized answer.outcome = true ↔ ∃ body, answer = .response 401 body := by
  cases answer with
  | broken => simp [Answer.outcome, noAnswer, isUnauthorized]
  | response status body =>
      by_cases hsuccess : 200 ≤ status ∧ status < 300
      · simp only [Answer.outcome, if_pos hsuccess, isUnauthorized, Answer.response.injEq]
        constructor
        · intro h
          cases h
        · rintro ⟨_, rfl, -⟩
          omega
      · simp only [Answer.outcome, if_neg hsuccess, isUnauthorized]
        split <;> simp_all

namespace Gateway

section Hom

variable {τ τ' : Type} {execute : τ → Except Failure Json × τ}
  {renew : τ → Except Failure String × τ} {keep : String → τ → τ}
  {execute' : τ' → Except Failure Json × τ'} {renew' : τ' → Except Failure String × τ'}
  {keep' : String → τ' → τ'}

/-- Whatever is seen of what is carried out is seen of the whole. -/
theorem withRenewal_hom (see : τ → τ')
    (hexecute : ∀ t, execute' (see t) = ((execute t).1, see (execute t).2))
    (hrenew : ∀ t, renew' (see t) = ((renew t).1, see (renew t).2))
    (hkeep : ∀ token t, keep' token (see t) = see (keep token t)) (t : τ) :
    withRenewal execute' (some renew') keep' (see t) =
      ((withRenewal execute (some renew) keep t).1,
        see (withRenewal execute (some renew) keep t).2) := by
  unfold withRenewal
  simp only [hexecute]
  cases isUnauthorized (execute t).1 with
  | false => rfl
  | true =>
      simp only [hrenew, if_true]
      obtain ⟨outcome, t'⟩ := renew (execute t).2
      cases outcome with
      | ok token => simp only [hkeep, hexecute]
      | error f => rfl

end Hom

variable {σ : Type} (serve : Message → σ → Answer × σ) (renew : σ → Except Failure String × σ)

/-- Asks the server and writes down what it was asked and what it said. -/
def noteAnswer (m : Message) (noted : σ × List Line) : Answer × σ × List Line :=
  let (answer, s) := serve m noted.1
  (answer, s, noted.2 ++ [.asked m answer])

/-- Renews the token and writes down what that has brought. -/
def noteRenewal (noted : σ × List Line) : Except Failure String × σ × List Line :=
  let (outcome, s) := renew noted.1
  (outcome, s, noted.2 ++ [.renewed outcome])

/-- Sends a request while everything is written down. -/
def dispatch (r : Request) (line : Gateway × σ) : Dispatch × Gateway × σ :=
  let done := send (noteAnswer serve) (some (noteRenewal renew)) line.1 r (line.2, [])
  (⟨r, done.2.2.2, done.1⟩, done.2.1, done.2.2.1)

/-- Sends one request after another. -/
def dispatches : List Request → Gateway × σ → List Dispatch × Gateway × σ
  | [], line => ([], line)
  | r :: rs, line =>
    let sent := dispatch serve renew r line
    let rest := dispatches rs sent.2
    (sent.1 :: rest.1, rest.2)

/-- Sends one request after another, and nothing is written down. -/
def sends : List Request → Gateway × σ → List (Except Failure Json) × Gateway × σ
  | [], line => ([], line)
  | r :: rs, line =>
    let sent := send serve (some renew) line.1 r line.2
    let rest := sends rs sent.2
    (sent.1 :: rest.1, rest.2)

variable {serve renew} {r : Request}

/-! ## The record changes nothing -/

/-- A gateway and the world without what was written down. -/
def unnoted (line : Gateway × σ × List Line) : Gateway × σ := (line.1, line.2.1)

/-- Writing down what the server answers changes nothing about an execution. -/
theorem executeIn_unnoted (line : Gateway × σ × List Line) :
    executeIn serve r (unnoted line) =
      ((executeIn (noteAnswer serve) r line).1, unnoted (executeIn (noteAnswer serve) r line).2) := by
  simp only [executeIn, execute, unnoted]
  cases line.1.message r <;> rfl

/-- Writing down what the server answers changes nothing about the sending of a request. -/
theorem send_eq_dispatch (line : Gateway × σ) :
    send serve (some renew) line.1 r line.2 =
      ((dispatch serve renew r line).1.outcome, (dispatch serve renew r line).2) := by
  have hrenew : ∀ line : Gateway × σ × List Line, renewIn renew (unnoted line) =
      ((renewIn (noteRenewal renew) line).1, unnoted (renewIn (noteRenewal renew) line).2) :=
    fun _ => rfl
  have hkeep : ∀ token (line : Gateway × σ × List Line),
      keepToken token (unnoted line) = unnoted (keepToken token line) := fun _ _ => rfl
  have hom := withRenewal_hom unnoted (@executeIn_unnoted σ serve r) hrenew hkeep
    (line.1, line.2, [])
  simpa only [send, dispatch, Option.map_some, unnoted, Prod.eta] using hom

/-- The outcomes and what is left in the end are those without a record. -/
theorem dispatches_sends (rs : List Request) (line : Gateway × σ) :
    sends serve renew rs line =
      ((dispatches serve renew rs line).1.map Dispatch.outcome, (dispatches serve renew rs line).2) := by
  induction rs generalizing line with
  | nil => rfl
  | cons r rs ih => simp only [sends, dispatches, send_eq_dispatch, ih, List.map_cons]

/-! ## What one request adds -/

/-- A message is made when the request can go out, and it is the one that stands for it. -/
theorem standsFor_of_message {g : Gateway} {m : Message} (h : g.message r = .ok m) :
    CanGoOut g.base g.token r ∧ m.StandsFor g.base g.token r := by
  unfold message at h
  split at h
  · cases h
  · rename_i url hurl
    split at h
    · rename_i hsendable
      cases h
      exact ⟨⟨url, hurl, hsendable⟩, rfl, hurl, rfl, rfl⟩
    · cases h

/-- No message is made when the request cannot go out. -/
theorem not_canGoOut_of_message {g : Gateway} {f : Failure} (h : g.message r = .error f) :
    ¬CanGoOut g.base g.token r ∧ ∃ why, f = .unreachable why := by
  rw [CanGoOut]
  unfold message at h
  split at h
  · rename_i e hurl
    cases h
    refine ⟨?_, _, rfl⟩
    rintro ⟨url, hurl', -⟩
    cases hurl.symm.trans hurl'
  · rename_i url hurl
    split at h
    · cases h
    · rename_i hnot
      cases h
      refine ⟨?_, _, rfl⟩
      rintro ⟨url', hurl', hsendable⟩
      cases hurl.symm.trans hurl'
      exact hnot hsendable

/-- Carrying out a request once is an execution of it, and writes down that and nothing else.  Its
outcome says that the token is not accepted when the server has said 401. -/
theorem execution_of_executeIn (g : Gateway) (s : σ) (noted : List Line) :
    ∃ lines outcome s', executeIn (noteAnswer serve) r (g, s, noted) =
        (outcome, g, s', noted ++ lines) ∧
      Execution g.base g.token r lines outcome ∧
      (isUnauthorized outcome = true ↔ ∃ m body, lines = [.asked m (.response 401 body)]) := by
  cases hmessage : g.message r with
  | error f =>
      obtain ⟨hout, why, rfl⟩ := not_canGoOut_of_message hmessage
      refine ⟨[], .error (.unreachable why), s, ?_, .withheld hout, ?_⟩
      · simp [executeIn, execute, hmessage]
      · simp [isUnauthorized]
  | ok m =>
      obtain ⟨hout, hstands⟩ := standsFor_of_message hmessage
      refine ⟨[.asked m (serve m s).1], (serve m s).1.outcome, (serve m s).2, ?_,
        .carried hout hstands, ?_⟩
      · simp [executeIn, execute, hmessage, noteAnswer]
      · simp [isUnauthorized_outcome]

/-- What one request adds to the record of a gateway. -/
structure Adds (g : Gateway) (d : Dispatch) (g' : Gateway) : Prop where
  proper : d.Proper g.base g.token
  base : g'.base = g.base
  token : g'.token = tokenAfter g.token d.lines

/-- One request takes one of the three ways. -/
theorem adds_dispatch (r : Request) (g : Gateway) (s : σ) :
    Adds g (dispatch serve renew r (g, s)).1 (dispatch serve renew r (g, s)).2.1 := by
  obtain ⟨lines, outcome, s₁, hfirst, hexecution, hanswer⟩ :=
    @execution_of_executeIn σ serve r g s []
  rw [List.nil_append] at hfirst
  cases htoken : isUnauthorized outcome with
  | false =>
      have hdispatch : dispatch serve renew r (g, s) = (⟨r, lines, outcome⟩, g, s₁) := by
        simp [dispatch, send, withRenewal, hfirst, htoken]
      have haccepted : ∀ m body, .asked m (.response 401 body) ∉ lines := by
        intro m body hm
        cases hexecution with
        | carried _ _ =>
            rw [hanswer.mpr ⟨m, body, by rw [List.mem_singleton.mp hm]⟩] at htoken
            cases htoken
        | withheld _ => cases hm
      rw [hdispatch]
      exact ⟨.accepted hexecution haccepted, rfl, (hexecution.tokenAfter_eq _).symm⟩
  | true =>
      obtain ⟨m, body, rfl⟩ := hanswer.mp htoken
      obtain ⟨renewed, s₂, hrenewed⟩ : ∃ renewed s₂, renew s₁ = (renewed, s₂) := ⟨_, _, rfl⟩
      cases renewed with
      | error f =>
          have hdispatch : dispatch serve renew r (g, s) =
              (⟨r, [.asked m (.response 401 body), .renewed (.error f)], outcome⟩, g, s₂) := by
            simp [dispatch, send, withRenewal, hfirst, htoken, renewIn, noteRenewal, hrenewed]
          rw [hdispatch]
          exact ⟨.refused hexecution, rfl, rfl⟩
      | ok new =>
          obtain ⟨lines', outcome', s₃, hsecond, hexecution', -⟩ :=
            @execution_of_executeIn σ serve r ⟨g.base, some new⟩ s₂
              [.asked m (.response 401 body), .renewed (.ok new)]
          have hdispatch : dispatch serve renew r (g, s) =
              (⟨r, .asked m (.response 401 body) :: .renewed (.ok new) :: lines', outcome'⟩,
                ⟨g.base, some new⟩, s₃) := by
            simp [dispatch, send, withRenewal, hfirst, htoken, renewIn, noteRenewal, hrenewed,
              keepToken, hsecond]
          have hlast : tokenAfter g.token (.asked m (.response 401 body) :: .renewed (.ok new) ::
              lines') = some new :=
            calc tokenAfter g.token (.asked m (.response 401 body) :: .renewed (.ok new) :: lines')
                = tokenAfter (some new) lines' :=
                  tokenAfter_append _ [.asked m (.response 401 body), .renewed (.ok new)] lines'
              _ = some new := hexecution'.tokenAfter_eq _
          rw [hdispatch]
          exact ⟨.replayed hexecution hexecution', rfl, hlast.symm⟩

/-- In a proper dispatch the server is asked for what the request says, with the token of the latest
renewal before. -/
theorem standsFor_of_proper {base : Url} {token : Option String} {d : Dispatch}
    (h : d.Proper base token) {earlier later : List Line} {m : Message} {answer : Answer}
    (hlines : d.lines = earlier ++ .asked m answer :: later) :
    m.StandsFor base (tokenAfter token earlier) d.request := by
  cases h with
  | accepted hfirst _ =>
      obtain ⟨rfl, hstands⟩ := hfirst.asked hlines
      exact hstands
  | refused hfirst =>
      rcases earlier with _ | ⟨_, _ | ⟨_, earlier⟩⟩
      · cases hlines
        exact (hfirst.asked (List.nil_append _).symm).2
      · cases hlines
      · simp at hlines
  | replayed hfirst hsecond =>
      rcases earlier with _ | ⟨_, _ | ⟨_, earlier⟩⟩
      · cases hlines
        exact (hfirst.asked (List.nil_append _).symm).2
      · cases hlines
      · simp only [List.cons_append, List.cons.injEq] at hlines
        obtain ⟨rfl, rfl, hlines⟩ := hlines
        obtain ⟨rfl, hstands⟩ := hsecond.asked hlines
        exact hstands

/-! ## What the whole record shows -/

/-- A record goes on from the gateway that the requests before have left. -/
theorem proper_dispatches {rs : List Request} {g : Gateway} {s : σ} {past future : List Dispatch}
    {d : Dispatch} (h : (dispatches serve renew rs (g, s)).1 = past ++ d :: future) :
    d.Proper g.base (tokenAfter g.token (past.flatMap Dispatch.lines)) := by
  induction rs generalizing g s past with
  | nil => simp [dispatches] at h
  | cons r rs ih =>
      have hadds := @adds_dispatch σ serve renew r g s
      simp only [dispatches] at h
      generalize dispatch serve renew r (g, s) = first at h hadds
      obtain ⟨first, g', s'⟩ := first
      cases past with
      | nil =>
          obtain ⟨rfl, -⟩ := List.cons.inj h
          exact hadds.proper
      | cons earliest past =>
          obtain ⟨rfl, hrest⟩ := List.cons.inj h
          have hproper := ih hrest
          rw [hadds.base, hadds.token, ← tokenAfter_append] at hproper
          exact hproper

/-- Each request is dispatched once, in their order. -/
theorem requests_dispatches (rs : List Request) (line : Gateway × σ) :
    (dispatches serve renew rs line).1.map Dispatch.request = rs := by
  induction rs generalizing line with
  | nil => rfl
  | cons r rs ih => simp only [dispatches, List.map_cons, ih, dispatch]

/-- A gateway keeps its base and the token that was brought last. -/
theorem gateway_dispatches (rs : List Request) (g : Gateway) (s : σ) :
    (dispatches serve renew rs (g, s)).2.1 =
      ⟨g.base, tokenAfter g.token
        ((dispatches serve renew rs (g, s)).1.flatMap Dispatch.lines)⟩ := by
  induction rs generalizing g s with
  | nil => rfl
  | cons r rs ih =>
      have hadds := @adds_dispatch σ serve renew r g s
      simp only [dispatches]
      generalize dispatch serve renew r (g, s) = first at hadds
      obtain ⟨first, g', s'⟩ := first
      rw [ih, List.flatMap_cons, tokenAfter_append, ← hadds.token, ← hadds.base]

/-- **One renewal, one replay.**  However a server answers and whatever the renewals bring, while
requests are sent one after another each of them is executed once; then, if the answer is 401, the
token is renewed, once; then, if that succeeds, the request is executed once more.  The outcome is
that of the last execution.  Whenever the server is asked, it is for what the request says, and with
the token of the latest renewal that has succeeded before, for whichever request, or else the first
token; and that is the token the gateway has in the end. -/
theorem renewed_once (serve : Message → σ → Answer × σ) (renew : σ → Except Failure String × σ)
    (g : Gateway) (s : σ) (rs : List Request) :
    let record := (dispatches serve renew rs (g, s)).1
    let line := (dispatches serve renew rs (g, s)).2
    record.map Dispatch.request = rs ∧
    sends serve renew rs (g, s) = (record.map Dispatch.outcome, line) ∧
    line.1 = ⟨g.base, tokenAfter g.token (record.flatMap Dispatch.lines)⟩ ∧
    ∀ past d future, record = past ++ d :: future →
      d.Proper g.base (tokenAfter g.token (past.flatMap Dispatch.lines)) ∧
      ∀ earlier m answer later, d.lines = earlier ++ .asked m answer :: later →
        m.StandsFor g.base (tokenAfter g.token (past.flatMap Dispatch.lines ++ earlier))
          d.request := by
  refine ⟨requests_dispatches rs (g, s), dispatches_sends rs (g, s), gateway_dispatches rs g s,
    fun past d future hsplit => ?_⟩
  have hproper := proper_dispatches hsplit
  refine ⟨hproper, fun earlier m answer later hlines => ?_⟩
  rw [tokenAfter_append]
  exact standsFor_of_proper hproper hlines

/-- A server that accepts one token and no other. -/
def choosy (m : Message) (n : Nat) : Answer × Nat :=
  (.response (if m.authorization = some "Bearer new" then 200 else 401) "", n)

/-- Renewals of which the first fails. -/
def secondTime (n : Nat) : Except Failure String × Nat :=
  (if n = 0 then .error noAnswer else .ok "new", n + 1)

/-- Of three requests the first is refused for good, the second is replayed with a new token, and the
third carries that token from the start. -/
theorem renewed_once_kept :
    let base : Url := ⟨"http", some ⟨[], [], .domain "school.example", none⟩, .segments [[]], none⟩
    let record := (dispatches choosy secondTime [.bare .get "a", .bare .get "b", .bare .get "c"]
      (⟨base, some "old"⟩, 0)).1
    record.map (fun d => d.lines.length) = [2, 3, 1] ∧
      ∃ past d, record = past ++ [d] ∧ ∃ m answer, d.lines = [.asked m answer] ∧
        m.StandsFor base (some "new") (.bare .get "c") := by
  intro base record
  obtain ⟨-, -, -, hrecord⟩ := renewed_once choosy secondTime ⟨base, some "old"⟩ 0
    [.bare .get "a", .bare .get "b", .bare .get "c"]
  have hsplit : record = record.take 2 ++
      [⟨.bare .get "c", [.asked ⟨.get, { base with path := .segments [['c']] },
        some "Bearer new", none⟩ (.response 200 "")], .ok .null⟩] := by rfl
  refine ⟨by decide +kernel, _, _, hsplit, _, _, rfl, ?_⟩
  exact (hrecord _ _ _ hsplit).2 [] _ _ [] rfl

end Gateway

end QueryCache.Web
