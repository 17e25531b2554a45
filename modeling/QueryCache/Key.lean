import QueryCache.Digest
import QueryCache.Json.Printer
import QueryCache.Text.Blank
import Std.Data.ExtTreeMap
import Std.Data.ExtTreeSet
/-!
# Cache keys

A key names one call: an endpoint with its arguments.  It is the endpoint's name, a colon
and sixteen hexadecimal digits of the SHA-256 digest of the call, so calls whose arguments
agree up to the order of object fields have one key.

`Key.preimage` is what is digested: the name, a zero byte, the canonical text of the
arguments.  The text holds no zero byte, so the last one marks where the name ends.

Keys are ordered by their text; collections of keys list them in that order.
-/

namespace QueryCache

structure Key where
  text : String
deriving DecidableEq, Repr, Hashable, Inhabited

namespace Key

instance : Ord Key := ⟨fun a b => compare a.text b.text⟩

instance : Std.TransOrd Key :=
  inferInstanceAs (Std.TransCmp fun a b : Key => compareOn Key.text a b)

instance : Std.LawfulEqOrd Key where
  eq_of_compare {a b} h := by
    cases a; cases b
    simp only [compare] at h
    have := Std.LawfulEqOrd.eq_of_compare (α := String) h
    simp_all

/-- The bytes that tell one call from another. -/
def preimage (endpoint : String) (args : Json) : List UInt8 :=
  endpoint.toUTF8.toList ++ 0 :: args.canonical.toUTF8.toList

/-- The key of a call. -/
def ofCall (endpoint : String) (args : Json) : Key :=
  let digest := (Digest.hex (Digest.sha256 (preimage endpoint args))).take 16
  ⟨endpoint ++ ":" ++ String.ofList digest⟩

/-- The part before the first colon.  An endpoint whose own name holds a colon is cut there. -/
def endpoint (k : Key) : String :=
  match Text.cut ':' k.text with
  | some (name, _) => name
  | none => k.text

end Key

/-- A set of keys, listed in order. -/
abbrev KeySet := Std.ExtTreeSet Key

/-- A table with one row per key, listed in order. -/
abbrev KeyMap (α : Type) := Std.ExtTreeMap Key α

end QueryCache
