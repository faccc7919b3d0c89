import QuasiGrammar.Publish.Store

/-
  QuasiGrammar.Publish.Host
  ─────────────────────────
  A host that answers the calls of a program: a tree of files with the grammar
  directory in it, and a registry that holds one grammar at most.  Each kind of
  call can be made to fail and to take time.  A call that fails has no effect.

      answer    one call: its failure, if one is planned, else its effect
      run       a program to its end, without regard to time
      proceed   a program up to the first call that takes time
-/

namespace QuasiGrammar

/-! ## §1. Faults. -/

/-- The places at which a host can fail: the kinds of calls, and the reading of the rules. -/
inductive FaultPoint where
  | exists
  | list
  | write
  | delete
  | register
  | unregister
  | rules
  deriving DecidableEq, Repr

/-- The place at which a call can fail. -/
def Call.point : Call → FaultPoint
  | .exists _ => .exists
  | .list => .list
  | .write _ _ => .write
  | .delete _ => .delete
  | .unregister _ => .unregister
  | .register _ => .register

/-- A failure, given the path that the call concerns. -/
abbrev Fault := Path → Failure

/-- What is planned for the calls at a place: for the next ones one by one, and for all later
ones. -/
structure Plan (α : Type) where
  upcoming : List α
  later : α

namespace Plan

variable {α : Type}

/-- The same for all calls. -/
def always (a : α) : Plan α := ⟨[], a⟩

/-- What is planned for the next call, and the plan after it. -/
def next (p : Plan α) : α × Plan α :=
  match p.upcoming with
  | [] => (p.later, p)
  | a :: rest => (a, { p with upcoming := rest })

@[simp]
theorem next_always (a : α) : (always a).next = (a, always a) := rfl

end Plan

/-- The failures that are planned for the calls at a place. -/
abbrev FaultPlan := Plan (Option Fault)

namespace FaultPlan

/-- No call fails. -/
def clear : FaultPlan := .always none

/-- Some calls pass, and the calls after them fail: so many, or all. -/
def after (skip : Nat) (times : Option Nat) (f : Fault) : FaultPlan :=
  match times with
  | none => ⟨List.replicate skip none, some f⟩
  | some n => ⟨List.replicate skip none ++ List.replicate n (some f), none⟩

end FaultPlan

/-! ## §2. Hosts. -/

/-- A host. -/
structure Host where
  tree : FileTree
  directory : GrammarDirectory
  /-- The file of the grammar that is registered. -/
  registered : Option Path
  faults : FaultPoint → FaultPlan
  /-- How long the calls take, in milliseconds. -/
  delay : FaultPoint → Plan Nat

namespace Host

/-- A host whose calls neither fail nor take time. -/
def calm (tree : FileTree) (directory : GrammarDirectory) : Host :=
  ⟨tree, directory, none, fun _ => .clear, fun _ => .always 0⟩

/-- The host with a plan for a place. -/
def plan (h : Host) (point : FaultPoint) (p : FaultPlan) : Host :=
  { h with faults := fun q => if q = point then p else h.faults q }

/-- The host with a plan of how long the calls at a place take. -/
def slow (h : Host) (point : FaultPoint) (p : Plan Nat) : Host :=
  { h with delay := fun q => if q = point then p else h.delay q }

/-- The failure that is planned for the next call at a place, if the call concerns a path. -/
def failure? (h : Host) (point : FaultPoint) (p : Path) : Option Failure :=
  (h.faults point).next.1.map (· p)

/-- The host once a call at a place has passed the failure that was planned for it, if any. -/
def passed (h : Host) (point : FaultPoint) : Host := h.plan point (h.faults point).next.2

/-- How long the next call at a place takes. -/
def duration (h : Host) (point : FaultPoint) : Nat := (h.delay point).next.1

/-- The host once a call at a place has taken its time. -/
def elapsed (h : Host) (point : FaultPoint) : Host := h.slow point (h.delay point).next.2

/-- The path that a call concerns. -/
def place (h : Host) : Call → Path
  | .exists name | .write name _ | .delete name =>
      (h.directory.root.resolve? name).getD h.directory.root
  | .list => h.directory.root
  -- The registry is nowhere in the directory; what a failure of it names lies above.
  | .unregister _ => h.directory.root.parent
  | .register path => path

/-- The effect of a call and its answer. -/
def perform (h : Host) : (c : Call) → Host × Except Failure c.Answer
  | .exists name => (h, h.directory.hasFile h.tree name)
  | .list => (h, h.directory.list h.tree)
  | .write name text =>
      let (t, r) := h.directory.write h.tree name text
      ({ h with tree := t }, r)
  | .delete name =>
      let (t, r) := h.directory.delete h.tree name
      ({ h with tree := t }, r)
  | .unregister _ => ({ h with registered := none }, .ok ())
  | .register path => ({ h with registered := some path }, .ok ())

/-- The host once a call is over, but for its effect. -/
def settled (h : Host) (point : FaultPoint) : Host := (h.passed point).elapsed point

/-- Answers a call: it fails if that is planned, else it takes effect. -/
def answer (h : Host) (c : Call) : Host × Except Failure c.Answer :=
  match h.failure? c.point (h.place c) with
  | some f => (h.settled c.point, .error f)
  | none => (h.settled c.point).perform c

@[simp]
theorem delay_perform (h : Host) (c : Call) : (h.perform c).1.delay = h.delay := by
  cases c <;> rfl

@[simp]
theorem delay_answer (h : Host) (c : Call) :
    (h.answer c).1.delay = (h.elapsed c.point).delay := by
  unfold answer
  split
  · rfl
  · rw [delay_perform]; rfl

/-- Calls that never take time never will. -/
theorem elapsed_of_always {h : Host} {point : FaultPoint} {ms : Nat}
    (hd : h.delay point = .always ms) : h.elapsed point = h := by
  have hq : (fun q => if q = point then (h.delay point).next.2 else h.delay q) = h.delay := by
    funext q
    by_cases hp : q = point
    · rw [if_pos hp, hp, hd]; rfl
    · rw [if_neg hp]
  unfold elapsed slow
  rw [hq]

end Host

/-! ## §3. Running programs. -/

/-- What can be seen of a running program. -/
inductive Event where
  | called (c : Call)
  | noticed (n : Notice)
  deriving DecidableEq, Repr

namespace Program

/-- Runs a program to its end: the host afterwards, what was seen, and the result. -/
def run {α : Type} : Program α → Host → Host × List Event × α
  | .done a, h => (h, [], a)
  | .notify n next, h =>
      let (h', events, a) := next.run h
      (h', .noticed n :: events, a)
  | .call c next, h =>
      let (h', r) := h.answer c
      let (h'', events, a) := (next r).run h'
      (h'', .called c :: events, a)

end Program

/-- A call that has been made and takes time, and how the program goes on after it. -/
structure Pending (α : Type) where
  call : Call
  next : Except Failure call.Answer → Program α

/-- How far a program has come. -/
inductive Progress (α : Type) where
  | finished (a : α)
  | waiting (ms : Nat) (p : Pending α)

namespace Program

/-- Runs a program up to its end or to a call that takes time. -/
def proceed {α : Type} : Program α → Host → Host × List Event × Progress α
  | .done a, h => (h, [], .finished a)
  | .notify n next, h =>
      let (h', events, p) := next.proceed h
      (h', .noticed n :: events, p)
  | .call c next, h =>
      -- A call that takes time is answered when it is over, by the host as it is then.
      if h.duration c.point = 0 then
        let (h', r) := h.answer c
        let (h'', events, p) := (next r).proceed h'
        (h'', .called c :: events, p)
      else (h, [.called c], .waiting (h.duration c.point) ⟨c, next⟩)

/-- Without delays a program comes to its end. -/
theorem proceed_eq_run {α : Type} (p : Program α) (h : Host) (hd : ∀ q, h.delay q = .always 0) :
    p.proceed h = ((p.run h).1, (p.run h).2.1, .finished (p.run h).2.2) := by
  induction p generalizing h with
  | done a => rfl
  | notify n next ih => simp [proceed, run, ih h hd]
  | call c next ih =>
    have hnow : h.duration c.point = 0 := by simp [Host.duration, hd]
    -- Answering a call uses up its delay, and the next one is the same.
    have hkeep : ∀ q, (h.answer c).1.delay q = .always 0 := by
      rw [Host.delay_answer, Host.elapsed_of_always (hd _)]
      exact hd
    simp [proceed, run, hnow, ih _ _ hkeep]

end Program

/-- Goes on with a program after its call: the call is answered now. -/
def Pending.resume {α : Type} (p : Pending α) (h : Host) : Host × List Event × Progress α :=
  let (h', r) := h.answer p.call
  (p.next r).proceed h'

end QuasiGrammar
