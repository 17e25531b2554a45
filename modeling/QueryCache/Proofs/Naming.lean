import QueryCache.Session.Basic
/-!
# Keys and the endpoints behind them

A key ends in a colon and sixteen digits, so what stands in front of them is the endpoint's
name whatever characters that has: calls with one key are calls of one endpoint.  Two calls
of one endpoint may in principle have one digest; nothing here depends on their not having it.

A catalogue is well named if it lists every endpoint under its own name, as `Setup.catalog`
does.  Then a key settles which endpoint its calls belong to, and in particular whether they
share their flights.
-/

namespace QueryCache

namespace Digest

/-- As many bytes as were asked for. -/
theorem length_bigEndian (count n : Nat) : (bigEndian count n).length = count := by
  simp [bigEndian]

/-- A digest has thirty-two bytes. -/
theorem length_sha256 (message : List UInt8) : (sha256 message).length = 32 := by
  simp [sha256, Registers.words, length_bigEndian]

/-- Two digits for each byte. -/
theorem length_hex (bytes : List UInt8) : (hex bytes).length = 2 * bytes.length := by
  induction bytes with
  | nil => rfl
  | cons b bytes ih =>
      have hcons : hex (b :: bytes) =
          [Text.lowerHex (b.toNat / 16), Text.lowerHex (b.toNat % 16)] ++ hex bytes := rfl
      rw [hcons, List.length_append, ih, List.length_cons]
      simp only [List.length_cons, List.length_nil]
      omega

end Digest

/-- The sixteen digits of a call. -/
theorem length_digits (endpoint : String) (args : Json) :
    ((Digest.hex (Digest.sha256 (Key.preimage endpoint args))).take 16).length = 16 := by
  rw [List.length_take, Digest.length_hex, Digest.length_sha256]
  decide

/-- **A key names its endpoint.** -/
theorem Key.ofCall_name {n n' : String} {args args' : Json}
    (h : Key.ofCall n args = Key.ofCall n' args') : n = n' := by
  have htext := congrArg (fun k => k.text.toList) h
  simp only [Key.ofCall, String.toList_append, String.toList_ofList] at htext
  have hlen : ((Digest.hex (Digest.sha256 (Key.preimage n args))).take 16).length =
      ((Digest.hex (Digest.sha256 (Key.preimage n' args'))).take 16).length := by
    rw [length_digits, length_digits]
  have hfront := (List.append_inj' htext hlen).1
  have hname := (List.append_inj' hfront rfl).1
  exact String.toList_inj.mp hname

namespace Setup

/-- The catalogue has this endpoint under this name. -/
def Lists (setup : Setup) (name : String) (endpoint : Endpoint) : Prop :=
  setup.endpoints[name]? = some endpoint

/-- A call of this endpoint with these arguments is what the key stands for. -/
def Serves (setup : Setup) (k : Key) (endpoint : Endpoint) (args : Json) : Prop :=
  (∃ name, setup.Lists name endpoint) ∧ endpoint.keyOf args = k

/-- Every endpoint is listed under its own name. -/
def WellNamed (setup : Setup) : Prop :=
  ∀ name endpoint, setup.Lists name endpoint → endpoint.name = name

/-- Every endpoint lets its callers share flights. -/
def AllShared (setup : Setup) : Prop :=
  ∀ name endpoint, setup.Lists name endpoint → endpoint.shared = true

/-- Whoever fetches under this key may share a flight. -/
def Shares (setup : Setup) (k : Key) : Prop :=
  ∀ endpoint args, setup.Serves k endpoint args → endpoint.shared = true

/-- Where all share their flights, so do those who fetch under one key. -/
theorem AllShared.shares {setup : Setup} (h : setup.AllShared) (k : Key) : setup.Shares k := by
  intro endpoint args hserves
  obtain ⟨⟨name, hlists⟩, -⟩ := hserves
  exact h name endpoint hlists

/-- One call that shares its flights speaks for all calls with its key. -/
theorem WellNamed.shares {setup : Setup} (h : setup.WellNamed) {k : Key} {endpoint : Endpoint}
    {args : Json} (hserves : setup.Serves k endpoint args) (hshared : endpoint.shared = true) :
    setup.Shares k := by
  intro endpoint' args' hserves'
  obtain ⟨⟨name', hlists'⟩, hkey'⟩ := hserves'
  obtain ⟨⟨name, hlists⟩, hkey⟩ := hserves
  have hnames : endpoint'.name = endpoint.name := Key.ofCall_name (hkey'.trans hkey.symm)
  rw [h name endpoint hlists, h name' endpoint' hlists'] at hnames
  subst hnames
  have hsame : endpoint = endpoint' := Option.some.inj (hlists.symm.trans hlists')
  rwa [← hsame]

/-- What a catalogue made from a list has under a name is on the list and has that name. -/
theorem mem_of_lists {setup : Setup} {endpoints : List Endpoint}
    (hcatalog : setup.endpoints = catalog endpoints) {name : String} {endpoint : Endpoint}
    (hlists : setup.Lists name endpoint) : endpoint ∈ endpoints ∧ endpoint.name = name := by
  have hfold : ∀ (l : List Endpoint) (table : Std.ExtTreeMap String Endpoint),
      (l.foldl (fun table e => table.insert e.name e) table)[name]? = some endpoint →
        (endpoint ∈ l ∧ endpoint.name = name) ∨ table[name]? = some endpoint := by
    intro l
    induction l with
    | nil => exact fun table hfound => Or.inr hfound
    | cons e l ih =>
        intro table hfound
        rcases ih _ hfound with ⟨hmem, hname⟩ | hhere
        · exact Or.inl ⟨List.mem_cons_of_mem e hmem, hname⟩
        · rw [Std.ExtTreeMap.getElem?_insert] at hhere
          by_cases he : compare e.name name = .eq
          · rw [if_pos he] at hhere
            obtain rfl := Option.some.inj hhere
            exact Or.inl ⟨List.mem_cons_self, Std.LawfulEqOrd.eq_of_compare he⟩
          · rw [if_neg he] at hhere
            exact Or.inr hhere
  unfold Lists at hlists
  rw [hcatalog] at hlists
  rcases hfold endpoints ∅ hlists with hfound | hempty
  · exact hfound
  · simp at hempty

/-- A catalogue made from a list is well named. -/
theorem wellNamed_of_catalog {setup : Setup} {endpoints : List Endpoint}
    (hcatalog : setup.endpoints = catalog endpoints) : setup.WellNamed :=
  fun _ _ hlists => (mem_of_lists hcatalog hlists).2

/-- A catalogue of endpoints that are shared shares all flights. -/
theorem allShared_of_catalog {setup : Setup} {endpoints : List Endpoint}
    (hcatalog : setup.endpoints = catalog endpoints)
    (hshared : ∀ endpoint ∈ endpoints, endpoint.shared = true) : setup.AllShared :=
  fun _ endpoint hlists => hshared endpoint (mem_of_lists hcatalog hlists).1

end Setup

end QueryCache
