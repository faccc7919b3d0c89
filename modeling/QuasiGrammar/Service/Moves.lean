import QuasiGrammar.Debounce.Moves
import QuasiGrammar.Service.Session

/-
  QuasiGrammar.Service.Moves
  ──────────────────────────
  What happens to a service at work: something is done with the source, the
  scheduler ticks, or time passes.  A list of moves is a session from its
  beginning to some moment, with all that is done in its place.

  What is done with the source can be taken apart further: an announcement calls
  one callback after the other, and these do things of their own in between.  A
  `Course` leads through all instants between two such deeds.
-/

namespace QuasiGrammar

/-! ## §1. Moves. -/

/-- A bit of what happens in a session. -/
inductive SessionMove where
  /-- Something is done with the source: the service is started or stopped, the rules are set, or
  anything else. -/
  | deed (d : Deed)
  /-- The scheduler ticks once. -/
  | tick (t : Tick)
  /-- Some milliseconds pass. -/
  | advance (ms : Nat)
  /-- Time passes until the scheduler is idle. -/
  | waitIdle
  deriving DecidableEq, Repr

/-- Whether something is done with the source. -/
def SessionMove.isDeed : SessionMove → Bool
  | .deed _ => true
  | _ => false

namespace Session

/-- One move. -/
def move (s : Service) (x : Session) : SessionMove → Session
  | .deed d => Scene.act s.listener d x
  | .tick t => { x with service := x.service.tick s.action t }
  | .advance ms => x.advance s ms
  | .waitIdle => x.waitIdle s

/-- Moves one after another. -/
def play (s : Service) (x : Session) (moves : List SessionMove) : Session := moves.foldl (move s) x

end Session

/-! ## §2. Instants. -/

/-- An instant of a session: what is to be done before anything else, and the session. -/
structure Instant where
  agenda : List Deed
  session : Session

namespace Instant

/-- What comes next, with the move that is made by it. -/
inductive Step (s : Service) : Instant → Option SessionMove → Instant → Prop
  /-- The first thing that is to be done is done. -/
  | deed (d : Deed) (rest : List Deed) (x : Session) :
      Step s ⟨d :: rest, x⟩ (some (.deed d))
        ⟨(Scene.perform s.listener d x).1 ++ rest, (Scene.perform s.listener d x).2⟩
  /-- Nothing is to be done, and somebody asks for something. -/
  | ask (d : Deed) (x : Session) (hask : d.isCall = false) : Step s ⟨[], x⟩ none ⟨[d], x⟩
  /-- Nothing is to be done, and time goes by. -/
  | pass (m : SessionMove) (x : Session) (hpass : m.isDeed = false) :
      Step s ⟨[], x⟩ (some m) ⟨[], x.move s m⟩
  /-- A callback fails; what was to be done is dropped, up to whoever catches the failure. -/
  | fail {agenda rest : List Deed} (x : Session) (hrest : rest <:+ agenda) :
      Step s ⟨agenda, x⟩ none ⟨rest, x⟩

/-- What leads from one instant to another, with the moves that are made on the way. -/
inductive Course (s : Service) : Instant → List SessionMove → Instant → Prop
  | here (m : Instant) : Course s m [] m
  | next {m m' m'' : Instant} {done : List SessionMove} {what : Option SessionMove}
      (h : Course s m done m') (hstep : Step s m' what m'') :
      Course s m (done ++ what.toList) m''

variable {s : Service}

theorem Course.trans {m m' m'' : Instant} {done more : List SessionMove} (h : Course s m done m')
    (hmore : Course s m' more m'') : Course s m (done ++ more) m'' := by
  induction hmore with
  | here => simpa using h
  | next hbefore hstep ih =>
    rw [← List.append_assoc]
    exact ih.next hstep

theorem Step.course {m m' : Instant} {what : Option SessionMove} (h : Step s m what m') :
    Course s m what.toList m' := by
  simpa using (Course.here m).next h

/-- An agenda is worked off deed by deed. -/
theorem course_work (agenda : List Deed) (x : Session) :
    ∃ done, Course s ⟨agenda, x⟩ done ⟨[], Scene.work s.listener agenda x⟩ := by
  induction agenda, x using Scene.work.induct s.listener with
  | case1 x =>
    rw [Scene.work]
    exact ⟨[], .here _⟩
  | case2 x d rest ih =>
    obtain ⟨done, hdone⟩ := ih
    rw [Scene.work]
    exact ⟨_, (Step.deed d rest x).course.trans hdone⟩

/-- Moves that ask for no calls lead through such instants. -/
theorem course_play (moves : List SessionMove) (hask : ∀ d, .deed d ∈ moves → d.isCall = false)
    (x : Session) : ∃ done, Course s ⟨[], x⟩ done ⟨[], x.play s moves⟩ := by
  induction moves generalizing x with
  | nil => exact ⟨[], .here _⟩
  | cons m rest ih =>
    have hmove : ∃ done, Course s ⟨[], x⟩ done ⟨[], x.move s m⟩ := by
      cases m with
      | deed d =>
        obtain ⟨done, hdone⟩ := course_work (s := s) [d] x
        exact ⟨_, (Step.ask d x (hask d List.mem_cons_self)).course.trans hdone⟩
      | tick t => exact ⟨_, (Step.pass (.tick t) x rfl).course⟩
      | advance ms => exact ⟨_, (Step.pass (.advance ms) x rfl).course⟩
      | waitIdle => exact ⟨_, (Step.pass .waitIdle x rfl).course⟩
    obtain ⟨done, hdone⟩ := hmove
    obtain ⟨more, hmore⟩ := ih (fun d hd => hask d (List.mem_cons_of_mem m hd)) (x.move s m)
    exact ⟨_, hdone.trans hmore⟩

end Instant

/-! ## §3. What runs build. -/

namespace Service

/-- The document of rules, if it can be built. -/
def build? (s : Service) (rules : List String) : Option String :=
  (Document.build s.engine s.settings.scopeName rules).toOption

/-- The documents of those runs whose rules can be built. -/
def built (s : Service) (runs : List (List String)) : List String := runs.filterMap s.build?

end Service

end QuasiGrammar
