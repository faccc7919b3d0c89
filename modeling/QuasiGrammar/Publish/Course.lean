import QuasiGrammar.Publish.Host

/-
  QuasiGrammar.Publish.Course
  ───────────────────────────
  The course that a program takes on a host: the calls that are answered, each
  with its failure and the host after it, the host at the end and the result.
  Running a program is taking its course and forgetting the hosts on the way
  (`run_eq_course`).

  For work that can fail, `Goes` says which course it takes, and a course of
  composed work is made of courses of its parts.
-/

namespace QuasiGrammar

/-! ## §1. Courses. -/

/-- A call that was answered: its failure, if it failed, and the host after it. -/
structure Answered where
  call : Call
  failure : Option Failure
  host : Host

/-- Whether a call took effect. -/
def Answered.tookEffect (a : Answered) : Bool := a.failure.isNone

/-- The failure of an answer. -/
def failureOf {α : Type} : Except Failure α → Option Failure
  | .ok _ => none
  | .error f => some f

/-- What becomes of a program: the calls that are answered, the host at the end and the result. -/
structure Course (α : Type) where
  steps : List Answered
  host : Host
  result : α

/-- The call that an event shows. -/
def Event.call? : Event → Option Call
  | .called c => some c
  | .noticed _ => none

namespace Program

/-- The course of a program, without regard to time. -/
def course {α : Type} : Program α → Host → Course α
  | .done a, h => ⟨[], h, a⟩
  | .notify _ next, h => next.course h
  | .call c next, h =>
      let (h', r) := h.answer c
      let rest := (next r).course h'
      { rest with steps := ⟨c, failureOf r, h'⟩ :: rest.steps }

theorem course_bind {α β : Type} (p : Program α) (f : α → Program β) (h : Host) :
    (p.bind f).course h =
      ⟨(p.course h).steps ++ ((f (p.course h).result).course (p.course h).host).steps,
        ((f (p.course h).result).course (p.course h).host).host,
        ((f (p.course h).result).course (p.course h).host).result⟩ := by
  induction p generalizing h with
  | done a => rfl
  | notify n next ih => exact ih h
  | call c next ih =>
    simp only [bind, course, ih]
    rfl

/-- A run is a course without the hosts on the way. -/
theorem run_eq_course {α : Type} (p : Program α) (h : Host) :
    (p.run h).1 = (p.course h).host ∧
      (p.run h).2.1.filterMap Event.call? = (p.course h).steps.map (·.call) ∧
      (p.run h).2.2 = (p.course h).result := by
  induction p generalizing h with
  | done a => exact ⟨rfl, rfl, rfl⟩
  | notify n next ih => exact ih h
  | call c next ih =>
    obtain ⟨hh, he, hr⟩ := ih (h.answer c).2 (h.answer c).1
    refine ⟨hh, ?_, hr⟩
    show c :: (((next (h.answer c).2).run (h.answer c).1).2.1.filterMap Event.call?) = _
    rw [he]
    rfl

end Program

/-! ## §2. Courses of work. -/

namespace Work

variable {α β : Type}

/-- Work in two parts as a program: the second part comes after the first one unless that fails. -/
theorem run_bind (x : Work α) (f : α → Work β) :
    (x >>= f).run = x.run.bind fun
      | .ok a => (f a).run
      | .error e => .done (.error e) := by
  show Program.bind x.run _ = _
  congr 1
  funext r
  cases r <;> rfl

/-- Guarded work as a program: the guard comes after the work if that fails. -/
theorem run_tryCatch (x : Work α) (k : Failure → Work α) :
    (tryCatch x k : Work α).run = x.run.bind fun
      | .ok a => .done (.ok a)
      | .error e => (k e).run := by
  show Program.bind x.run _ = _
  congr 1
  funext r
  cases r <;> rfl

/-- From a host, the work makes these calls, comes to this host and has this result. -/
def Goes (w : Work α) (h : Host) (steps : List Answered) (h' : Host) (r : Except Failure α) :
    Prop :=
  w.run.course h = ⟨steps, h', r⟩

variable {h h' : Host} {steps : List Answered}

theorem goes_course (w : Work α) (h : Host) :
    w.Goes h (w.run.course h).steps (w.run.course h).host (w.run.course h).result := rfl

theorem goes_pure {a : α} {r : Except Failure α} :
    Goes (pure a) h steps h' r ↔ steps = [] ∧ h' = h ∧ r = .ok a := by
  show (⟨[], h, .ok a⟩ : Course (Except Failure α)) = _ ↔ _
  simp only [Course.mk.injEq, eq_comm]

theorem goes_throw {f : Failure} {r : Except Failure α} :
    Goes (throw f) h steps h' r ↔ steps = [] ∧ h' = h ∧ r = .error f := by
  show (⟨[], h, .error f⟩ : Course (Except Failure α)) = _ ↔ _
  simp only [Course.mk.injEq, eq_comm]

theorem goes_tell {n : Notice} {r : Except Failure Unit} :
    Goes (tell n) h steps h' r ↔ steps = [] ∧ h' = h ∧ r = .ok () := by
  show (⟨[], h, .ok ()⟩ : Course (Except Failure Unit)) = _ ↔ _
  simp only [Course.mk.injEq, eq_comm]

theorem goes_ask {c : Call} {r : Except Failure c.Answer} :
    Goes (ask c) h steps h' r ↔ h.answer c = (h', r) ∧ steps = [⟨c, failureOf r, h'⟩] := by
  show (⟨[⟨c, failureOf (h.answer c).2, (h.answer c).1⟩], (h.answer c).1, (h.answer c).2⟩ :
    Course _) = _ ↔ _
  constructor
  · intro hc
    cases hc
    exact ⟨rfl, rfl⟩
  · rintro ⟨ha, hs⟩
    rw [ha, hs]

/-- Work in two parts fails in the first part, or takes the courses of both. -/
theorem goes_bind {x : Work α} {f : α → Work β} {r : Except Failure β} :
    Goes (x >>= f) h steps h' r ↔
      (∃ e, Goes x h steps h' (.error e) ∧ r = .error e) ∨
        ∃ a before mid after, Goes x h before mid (.ok a) ∧ Goes (f a) mid after h' r ∧
          steps = before ++ after := by
  unfold Goes
  rw [run_bind, Program.course_bind]
  generalize x.run.course h = c
  obtain ⟨before, mid, result⟩ := c
  cases result with
  | error e =>
    simp only [Program.course, List.append_nil, Course.mk.injEq, Except.error.injEq, reduceCtorEq,
      and_false, false_and, exists_false, or_false]
    constructor
    · rintro ⟨rfl, rfl, rfl⟩
      exact ⟨e, ⟨rfl, rfl, rfl⟩, rfl⟩
    · rintro ⟨e', ⟨rfl, rfl, rfl⟩, rfl⟩
      exact ⟨rfl, rfl, rfl⟩
  | ok a =>
    simp only [Course.mk.injEq, reduceCtorEq, and_false, false_and, exists_false, false_or]
    constructor
    · intro hc
      exact ⟨a, before, mid, _, ⟨rfl, rfl, rfl⟩, by rw [← hc.2.1, ← hc.2.2], hc.1.symm⟩
    · rintro ⟨a', before', mid', after, ⟨rfl, rfl, ha⟩, hf, rfl⟩
      cases ha
      rw [hf]
      exact ⟨rfl, rfl, rfl⟩

/-- Work whose answer is changed goes as the work does. -/
theorem goes_bind_pure {x : Work α} {f : α → β} {r : Except Failure β} :
    Goes (x >>= fun a => pure (f a)) h steps h' r ↔ ∃ q, Goes x h steps h' q ∧ r = q.map f := by
  rw [goes_bind]
  constructor
  · rintro (⟨e, hx, rfl⟩ | ⟨a, before, mid, after, hx, hpure, rfl⟩)
    · exact ⟨_, hx, rfl⟩
    · obtain ⟨rfl, rfl, rfl⟩ := goes_pure.1 hpure
      rw [List.append_nil]
      exact ⟨_, hx, rfl⟩
  · rintro ⟨q, hx, rfl⟩
    cases q with
    | error e => exact .inl ⟨e, hx, rfl⟩
    | ok a => exact .inr ⟨a, steps, h', [], hx, goes_pure.2 ⟨rfl, rfl, rfl⟩, by simp⟩

/-- Guarded work succeeds by itself, or its failure is taken over by the guard. -/
theorem goes_tryCatch {x : Work α} {k : Failure → Work α} {r : Except Failure α} :
    Goes (tryCatch x k) h steps h' r ↔
      (∃ a, Goes x h steps h' (.ok a) ∧ r = .ok a) ∨
        ∃ e before mid after, Goes x h before mid (.error e) ∧ Goes (k e) mid after h' r ∧
          steps = before ++ after := by
  unfold Goes
  rw [run_tryCatch, Program.course_bind]
  generalize x.run.course h = c
  obtain ⟨before, mid, result⟩ := c
  cases result with
  | ok a =>
    simp only [Program.course, List.append_nil, Course.mk.injEq, Except.ok.injEq, reduceCtorEq,
      and_false, false_and, exists_false, or_false]
    constructor
    · rintro ⟨rfl, rfl, rfl⟩
      exact ⟨a, ⟨rfl, rfl, rfl⟩, rfl⟩
    · rintro ⟨a', ⟨rfl, rfl, rfl⟩, rfl⟩
      exact ⟨rfl, rfl, rfl⟩
  | error e =>
    simp only [Course.mk.injEq, reduceCtorEq, and_false, false_and, exists_false, false_or]
    constructor
    · intro hc
      exact ⟨e, before, mid, _, ⟨rfl, rfl, rfl⟩, by rw [← hc.2.1, ← hc.2.2], hc.1.symm⟩
    · rintro ⟨e', before', mid', after, ⟨rfl, rfl, he⟩, hk, rfl⟩
      cases he
      rw [hk]
      exact ⟨rfl, rfl, rfl⟩

end Work

end QuasiGrammar
