import QueryCache.Classroom.Catalog
import QueryCache.Proofs.Folders
import QueryCache.Web.Gateway

/-!
# Below the base

Every request of the catalog goes to the server that the base address names, and to a path that
continues the base's.  But ids stand in paths as they are, and an id may hold segments of two dots.
How far up these lead is told from the request alone (`Gateway.trail`); they lead out of the base
path unless what they have left is entered again by its names (`Gateway.below_base_iff`).
-/

namespace QueryCache.Web

/-! ## References that begin with a word -/

/-- A text that begins with a word of small letters; a slash follows if anything. -/
def BeginsWithWord (cs : List Char) : Prop :=
  ∃ word tail, word ≠ [] ∧ (∀ c ∈ word, c.isLower) ∧ (∀ c ∈ tail.head?, c = '/') ∧
    cs = word ++ tail

namespace BeginsWithWord

variable {cs : List Char}

/-- A text keeps its first word when a slash and more are added. -/
theorem append_slash (h : BeginsWithWord cs) (rest : List Char) :
    BeginsWithWord (cs ++ '/' :: rest) := by
  obtain ⟨word, tail, hne, hword, htail, rfl⟩ := h
  refine ⟨word, tail ++ '/' :: rest, hne, hword, ?_, by simp⟩
  cases tail <;> simp_all

/-- The first character of a word is a small letter. -/
theorem exists_cons (h : BeginsWithWord cs) : ∃ c rest, cs = c :: rest ∧ c.isLower := by
  obtain ⟨word, tail, hne, hword, -, rfl⟩ := h
  obtain ⟨c, word, rfl⟩ := List.exists_cons_of_ne_nil hne
  exact ⟨c, word ++ tail, rfl, hword c List.mem_cons_self⟩

end BeginsWithWord

namespace Url

/-- A character that means nothing but itself at the beginning of a reference. -/
structure IsPlain (c : Char) : Prop where
  blank : isBlank c = false
  kept : isKept c = true
  slash : isSlash c = false
  inScheme : isSchemeChar c = true
  path : endsPath c = false

/-- Small letters mean nothing but themselves. -/
theorem isPlain_of_isLower {c : Char} (h : c.isLower) : IsPlain c := by
  have hrange : 97 ≤ c.toNat := of_decide_eq_true ((Bool.and_eq_true _ _).mp h).1
  have hne : ∀ other : Char, other.toNat < 97 → c ≠ other := by
    rintro other hother rfl
    omega
  have halpha : c.isAlpha = true := (congrArg (c.isUpper || ·) h).trans (Bool.or_true _)
  exact {
    blank := decide_eq_false (by omega)
    kept := by simp [isKept, hne]
    slash := by simp [isSlash, hne]
    inScheme := by simp [isSchemeChar, Char.isAlphanum, halpha]
    path := by simp [endsPath, hne] }

/-- What is dropped around a text, and inside it, is no part of the word. -/
theorem beginsWithWord_tidy {s : String} (h : BeginsWithWord s.toList) :
    BeginsWithWord (tidy s) := by
  obtain ⟨word, tail, hne, hword, htail, hs⟩ := h
  have hfront : s.toList.dropWhile isBlank = word ++ tail := by
    obtain ⟨c, word, rfl⟩ := List.exists_cons_of_ne_nil hne
    rw [hs, List.cons_append, List.dropWhile_cons_of_neg]
    simp [(isPlain_of_isLower (hword c List.mem_cons_self)).blank]
  have hkept : word.filter isKept = word :=
    List.filter_eq_self.2 fun c hc => (isPlain_of_isLower (hword c hc)).kept
  have hlast : ∀ h : word ≠ [], ¬ isBlank (word.getLast h) := fun h => by
    simp [(isPlain_of_isLower (hword _ (List.getLast_mem h))).blank]
  -- Blanks at the end are dropped from the tail alone, and never its slash.
  refine ⟨word, (tail.rdropWhile isBlank).filter isKept, hne, hword, ?_, ?_⟩
  · cases tail with
    | nil => simp
    | cons c tail =>
        obtain rfl : c = '/' := htail c rfl
        rw [show '/' :: tail = ['/'] ++ tail from rfl, rdropWhile_append (by decide)]
        simp [isKept]
  · rw [tidy_eq, hfront, rdropWhile_append hlast, List.filter_append, hkept]

/-- No colon follows the word, so it is no scheme. -/
theorem cutScheme_word {cs : List Char} (h : BeginsWithWord cs) : cutScheme cs = none := by
  obtain ⟨word, tail, hne, hword, htail, rfl⟩ := h
  have hname : (word ++ tail).dropWhile isSchemeChar = tail := by
    rw [List.dropWhile_append_of_pos fun c hc => (isPlain_of_isLower (hword c hc)).inScheme]
    cases tail with
    | nil => rfl
    | cons c tail =>
        obtain rfl : c = '/' := htail c rfl
        rfl
  unfold cutScheme
  split
  · rfl
  · rw [hname]
    cases tail with
    | nil => simp
    | cons c tail =>
        obtain rfl : c = '/' := htail c rfl
        simp

/-- A word continues the path of the base in place of its last segment. -/
theorem follow_word {base : Url} {cs : List Char} (h : BeginsWithWord cs) :
    base.follow cs = .ok (base.moveTo (walkText (isSpecial base.scheme) base.place.dropLast cs)
      (queryAfter (isSpecial base.scheme) cs)) := by
  obtain ⟨c, rest, rfl, hc⟩ := h.exists_cons
  have hslash := (isPlain_of_isLower hc).slash
  have hpath := (isPlain_of_isLower hc).path
  have hmarks : c ≠ '#' ∧ c ≠ '?' ∧ c ≠ '/' := by
    simp only [isSlash, endsPath, Bool.or_eq_false_iff, beq_eq_false_iff_ne] at hslash hpath
    exact ⟨hpath.2, hpath.1, hslash.1⟩
  simp only [follow]
  split <;> simp_all

/-- A reference that begins with a word is followed from the base, if that has segments. -/
theorem join_word {base : Url} {s : String} (h : BeginsWithWord s.toList) :
    base.join s = match base.path with
      | .segments _ => base.follow (tidy s)
      | .flat _ => .error .relativeToFlatBase := by
  have hcs := beginsWithWord_tidy h
  obtain ⟨c, rest, hfirst, hc⟩ := hcs.exists_cons
  have hmark : c ≠ '#' := by
    rintro rfl
    exact absurd hc (by decide)
  simp only [join, cutScheme_word hcs]
  cases base.path with
  | segments place => rfl
  | flat text => simp [hfirst, hmark]

end Url

/-- A path that begins with a slash and a word. -/
def IsPath (path : String) : Prop := ∃ rest, path.toList = '/' :: rest ∧ BeginsWithWord rest

/-- Whether a path is seen to begin so. -/
def beginsAsPath (path : String) : Bool :=
  match path.toList with
  | '/' :: rest =>
    !(rest.takeWhile Char.isLower).isEmpty && (rest.dropWhile Char.isLower).head?.all (· == '/')
  | _ => false

theorem isPath_of_beginsAsPath {path : String} (h : beginsAsPath path = true) : IsPath path := by
  unfold beginsAsPath at h
  split at h
  · next rest hpath =>
      obtain ⟨hword, htail⟩ := (Bool.and_eq_true _ _).mp h
      refine ⟨rest, hpath, rest.takeWhile Char.isLower, rest.dropWhile Char.isLower, ?_,
        fun c hc => List.mem_takeWhile_imp hc, ?_, List.takeWhile_append_dropWhile.symm⟩
      · simpa using hword
      · intro c hc
        rw [Option.mem_def.1 hc] at htail
        simpa using htail
  · cases h

/-- A path with an id below it is a path. -/
theorem IsPath.below {path : String} (h : IsPath path) (rest : String) :
    IsPath (path ++ "/" ++ rest) := by
  obtain ⟨cs, hpath, hcs⟩ := h
  refine ⟨cs ++ '/' :: rest.toList, ?_, hcs.append_slash rest.toList⟩
  simp [hpath]

end QueryCache.Web

namespace QueryCache.Classroom

open Web

/-- Every write the server offers. -/
def mutations : List Mutation :=
  [createClass, updateClass, deleteClass, markMessageRead, sendMessage, awardPoints]

/-- The requests of the catalog, with any arguments. -/
inductive Offered : Request → Prop
  | read {e : Endpoint} (he : e ∈ endpoints) (args : Json) : Offered (e.request args)
  | write {m : Mutation} (hm : m ∈ mutations) (args : Json) : Offered (m.request args)

/-- The paths of the catalog; an id may follow. -/
def roots : List String :=
  ["/classes", "/lessons", "/assessments", "/messages", "/users", "/gamification/leaderboard",
    "/dashboard", "/analytics", "/realtime/trigger", "/gamification/points"]

/-- All paths of the catalog begin with a slash and a word. -/
theorem isPath_roots : ∀ path ∈ roots, IsPath path := by
  have hroots : roots.all beginsAsPath = true := by decide
  exact fun path hpath => isPath_of_beginsAsPath (List.all_eq_true.1 hroots path hpath)

/-- The path of every request of the catalog begins with a slash and a word, whatever ids it is
given. -/
theorem Offered.isPath {r : Request} (h : Offered r) : IsPath r.path := by
  have root := isPath_roots
  cases h with
  | read he args =>
      simp only [endpoints, List.mem_cons, List.not_mem_nil, or_false] at he
      rcases he with rfl | rfl | rfl | rfl | rfl | rfl | rfl | rfl | rfl | rfl | rfl
      · exact root "/classes" (by decide)
      · exact (root "/classes" (by decide)).below _
      · exact root "/lessons" (by decide)
      · exact root "/assessments" (by decide)
      · exact root "/messages" (by decide)
      · exact (root "/messages" (by decide)).below _
      · exact root "/users" (by decide)
      · exact root "/gamification/leaderboard" (by decide)
      · exact root "/dashboard" (by decide)
      · exact root "/analytics" (by decide)
      · exact root "/realtime/trigger" (by decide)
  | write hm args =>
      have hread : (markMessageRead.request args).path =
          "/messages" ++ "/" ++ (argument "id" args ++ "/read") := String.append_assoc
      simp only [mutations, List.mem_cons, List.not_mem_nil, or_false] at hm
      rcases hm with rfl | rfl | rfl | rfl | rfl | rfl
      · exact root "/classes" (by decide)
      · exact (root "/classes" (by decide)).below _
      · exact (root "/classes" (by decide)).below _
      · rw [hread]
        exact (root "/messages" (by decide)).below _
      · exact root "/messages" (by decide)
      · exact root "/gamification/points" (by decide)

end QueryCache.Classroom

namespace QueryCache.Web

namespace Url

/-- Parameters go into the query and nowhere else. -/
theorem exists_withParameters (u : Url) (parameters : List (String × String)) :
    ∃ query, u.withParameters parameters = { u with query := query } := by
  unfold withParameters
  split_ifs
  · exact ⟨u.query, rfl⟩
  · split <;> exact ⟨_, rfl⟩

end Url

namespace Gateway

/-- The text of a request's path, as it continues the base. -/
def reference (r : Request) : String := String.ofList (r.path.toList.dropWhile (· == '/'))

/-- The segments along which a request goes on from the base. -/
def steps (g : Gateway) (r : Request) : List (List Char) :=
  Url.segmentsOf (Url.isSpecial g.base.scheme) (Url.tidy (reference r))

/-- Where they lead. -/
def trail (g : Gateway) (r : Request) : Url.Trail := Url.Trail.walk ⟨0, []⟩ (g.steps r)

/-- Without its slashes, such a path begins with the word. -/
theorem beginsWithWord_reference {r : Request} (h : IsPath r.path) :
    BeginsWithWord (reference r).toList := by
  obtain ⟨rest, hpath, hrest⟩ := h
  obtain ⟨c, cs, rfl, hc⟩ := hrest.exists_cons
  have hslash : c ≠ '/' := by
    rintro rfl
    exact absurd hc (by decide)
  simpa [reference, hpath, hslash] using hrest

/-- The place of a base always ends in a slash. -/
theorem isFolder_base {address : String} {token : Option String} {g : Gateway}
    (hopen : openAt address token = .ok g)
    (haddress : ∀ c ∈ address.toList, Url.endsPath c = false) : Url.IsFolder g.base.place := by
  obtain ⟨base, hread, h⟩ := exists_of_bind_eq_ok hopen
  cases h
  refine Url.isFolder_read (Url.isFolderText_tidy fun c hc => haddress c ?_) hread
  exact (List.rdropWhile_prefix (· == '/') _).subset hc

variable {g : Gateway} {r : Request}

/-- Nothing is relative to a path without structure. -/
theorem urlFor_flat {text : List Char} (hr : IsPath r.path) (hbase : g.base.path = .flat text) :
    g.urlFor r = .error .relativeToFlatBase := by
  have hjoin : g.base.join (reference r) = .error .relativeToFlatBase := by
    rw [Url.join_word (beginsWithWord_reference hr), hbase]
  rw [urlFor, ← reference, hjoin]
  rfl

/-- A request goes from the base along its trail, to the scheme and authority of the base. -/
theorem urlFor_segments {place : List (List Char)} (hr : IsPath r.path)
    (hbase : g.base.path = .segments place) :
    ∃ url, g.urlFor r = .ok url ∧ url.scheme = g.base.scheme ∧
      url.authority = g.base.authority ∧
      url.path = .segments ((g.trail r).goneFrom place.dropLast) := by
  have href := beginsWithWord_reference hr
  have hplace : g.base.place = place := by rw [Url.place, hbase]
  have hwalk : Url.walkText (Url.isSpecial g.base.scheme) place.dropLast (Url.tidy (reference r)) =
      (g.trail r).goneFrom place.dropLast := by
    rw [trail, Url.Trail.goneFrom_walk, Url.Trail.goneFrom_start]
    rfl
  have hjoin : ∃ query, g.base.join (reference r) =
      .ok (g.base.moveTo ((g.trail r).goneFrom place.dropLast) query) := by
    rw [Url.join_word href, hbase, ← hwalk, ← hplace]
    exact ⟨_, Url.follow_word (Url.beginsWithWord_tidy href)⟩
  obtain ⟨query, hjoin⟩ := hjoin
  obtain ⟨query', hquery⟩ := Url.exists_withParameters
    (g.base.moveTo ((g.trail r).goneFrom place.dropLast) query) r.query
  have hurl : g.urlFor r =
      .ok ((g.base.moveTo ((g.trail r).goneFrom place.dropLast) query).withParameters r.query) := by
    rw [urlFor, ← reference, hjoin]
    rfl
  rw [hquery] at hurl
  exact ⟨_, hurl, rfl, rfl, rfl⟩

/-- Where requests of the catalog go from a base without a query and a fragment, for any arguments.
A base without structure takes no request.  From any other they go to the server of the base, and
without steps back to a path that continues the base's; in general just if they enter again
whatever they have left.  (An address of a file may begin with a disk, which no step leaves.) -/
theorem below_base_iff {address : String} {token : Option String}
    (hopen : openAt address token = .ok g)
    (haddress : ∀ c ∈ address.toList, Url.endsPath c = false) (hr : Classroom.Offered r) :
    match g.base.path with
    | .flat _ => g.urlFor r = .error .relativeToFlatBase
    | .segments place => ∃ url, g.urlFor r = .ok url ∧ url.scheme = g.base.scheme ∧
        url.authority = g.base.authority ∧
        ((∀ segment ∈ g.steps r, Url.isStepBack segment = false) →
          g.base.pathText <+: url.pathText) ∧
        (g.base.scheme ≠ "file" →
          (g.base.pathText <+: url.pathText ↔ (g.trail r).EndsBelow place.dropLast)) := by
  have hfolder := isFolder_base hopen haddress
  cases hbase : g.base.path with
  | flat text => exact urlFor_flat hr.isPath hbase
  | segments place =>
      obtain ⟨url, hurl, hscheme, hauthority, hpath⟩ := urlFor_segments hr.isPath hbase
      have hplace : g.base.place = place := by rw [Url.place, hbase]
      rw [hplace] at hfolder
      have hsteps : g.steps r ≠ [] := Url.segmentsOf_ne_nil _ _
      have hprefix : g.base.pathText <+: url.pathText ↔ (g.trail r).EndsBelow place.dropLast := by
        rw [Url.pathText_segments hbase, Url.pathText_segments hpath, Url.Trail.endsBelow_iff]
        refine hfolder.placeText_prefix_iff ?_ ?_
        · exact Url.Trail.areParts_goneFrom hfolder.parts.dropLast
            (Url.areParts_segmentsOf _ _)
        · exact Url.Trail.goneFrom_ne_nil _ (Url.Trail.walk_down_ne_nil _ _ hsteps)
      refine ⟨url, hurl, hscheme, hauthority, fun hforth => hprefix.2 ?_, fun _ => hprefix⟩
      exact Url.Trail.endsBelow_of_up_eq_zero _ (Url.Trail.walk_up _ _ hforth)
        (Url.Trail.walk_down_ne_nil _ _ hsteps)

/-- A gateway to the own machine. -/
def toSelf : Gateway :=
  ⟨⟨"https", some ⟨[], [], .ipv6 [0, 0, 0, 0, 0, 0, 0, 1], none⟩,
    .segments ["api".toList, "v1".toList, []], none⟩, some "secret"⟩

/-- Asks for a class whose id is a path of its own. -/
def leaving : Request :=
  (Classroom.record "getClass" "/classes" "Class").request (.ofFields [("id", .str "../../admin")])

/-- One step leaves `classes`, the next leaves the base. -/
theorem below_base_iff_leaving :
    openAt "https://[::1]/api/v1" (some "secret") = .ok toSelf ∧
      (∀ c ∈ "https://[::1]/api/v1".toList, Url.endsPath c = false) ∧
      Classroom.Offered leaving ∧
      ∃ url, toSelf.urlFor leaving = .ok url ∧ url.target = "/api/admin" ∧
        ¬ toSelf.base.pathText <+: url.pathText := by
  have hopen : openAt "https://[::1]/api/v1" (some "secret") = .ok toSelf := by decide
  have hmarks : ("https://[::1]/api/v1".toList.any Url.endsPath) = false := by decide
  have haddress : ∀ c ∈ "https://[::1]/api/v1".toList, Url.endsPath c = false :=
    fun c hc => Bool.eq_false_iff.2 (List.any_eq_false.1 hmarks c hc)
  have hoffered : Classroom.Offered leaving :=
    .read (List.mem_cons_of_mem _ List.mem_cons_self) (.ofFields [("id", .str "../../admin")])
  obtain ⟨url, hurl, -, -, -, hiff⟩ := below_base_iff hopen haddress hoffered
  refine ⟨hopen, haddress, hoffered, url, hurl, ?_, fun hbelow => ?_⟩
  · have htarget : (toSelf.urlFor leaving).map Url.target = .ok "/api/admin" := by decide
    rw [hurl] at htarget
    exact Except.ok.inj htarget
  · obtain ⟨rest, -, hdown⟩ := (hiff (by decide)).1 hbelow
    have htrail : toSelf.trail leaving = ⟨1, ["admin".toList]⟩ := by decide
    rw [htrail] at hdown
    exact absurd (List.cons.inj hdown).1 (by decide)

end Gateway

end QueryCache.Web
