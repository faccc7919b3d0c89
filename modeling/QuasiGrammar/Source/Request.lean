import QuasiGrammar.Source.Juncture

/-
  QuasiGrammar.Source.Request
  ───────────────────────────
  A source that is asked from outside of all announcements, while its observers
  leave it alone: they do what they like when they are called, but nothing with
  the source.
-/

namespace QuasiGrammar

/-- What a source is asked for from outside. -/
inductive Request where
  | observe (name : String)
  | dispose (handle : Nat)
  | announce
  deriving DecidableEq, Repr

/-- The deed that is asked for. -/
def Request.deed : Request → Deed
  | .observe name => .observe name
  | .dispose i => .dispose i
  | .announce => .announce

/-- What a request does to the observers. -/
def Observers.answer (o : Observers Callback) : Request → Observers Callback
  | .observe name => o.observe (.host name)
  | .dispose i => o.dispose i
  | .announce => o

namespace Scene

variable {σ : Type}

/-- A source whose observers leave it alone, after some requests. -/
def asked (l : Listener σ) (rules : List String) (service : σ) (requests : List Request) :
    Scene σ :=
  requests.foldl (fun x request => act l request.deed x) (initial rules [] service)

theorem asked_concat (l : Listener σ) (rules : List String) (service : σ)
    (requests : List Request) (request : Request) :
    asked l rules service (requests ++ [request]) =
      act l request.deed (asked l rules service requests) := by
  unfold asked
  rw [List.foldl_append]
  rfl

end Scene

end QuasiGrammar
