import QueryCache.Json.Basic
/-!
# Requests

What is asked of the server: a method, a path below the server's base address, query
parameters in order, and perhaps a body.
-/

namespace QueryCache

inductive Method where
  | get
  | post
  | put
  | patch
  | delete
deriving DecidableEq, Repr

def Method.text : Method → String
  | get => "GET"
  | post => "POST"
  | put => "PUT"
  | patch => "PATCH"
  | delete => "DELETE"

structure Request where
  method : Method
  path : String
  query : List (String × String)
  body : Option Json
deriving DecidableEq, Repr

namespace Request

/-- Asks for a path and nothing more. -/
def bare (method : Method) (path : String) : Request := ⟨method, path, [], none⟩

def withQuery (r : Request) (parameters : List (String × String)) : Request :=
  { r with query := r.query ++ parameters }

def withBody (r : Request) (body : Json) : Request := { r with body := some body }

/-- The method and the path, by which a server tells what is wanted. -/
def route (r : Request) : String := r.method.text ++ " " ++ r.path

end Request

end QueryCache
