import QuasiGrammar.Proofs.Publish.Faultless

/-
  QuasiGrammar.Proofs.Publish.Pauses
  ──────────────────────────────────
  Pauses make no difference to what a program does.  A program that is taken up
  to a call which takes time, and on from there, comes to the host, the events
  and the result of one that is run in one go (`finish_proceed`).
-/

namespace QuasiGrammar

variable {α : Type}

/-- Runs a program on from a call that takes time. -/
def Pending.run (p : Pending α) (h : Host) : Host × List Event × α :=
  (p.next (h.answer p.call).2).run (h.answer p.call).1

/-- Runs a program on from where it has come to. -/
def Progress.finish : Host × List Event × Progress α → Host × List Event × α
  | (h, events, .finished a) => (h, events, a)
  | (h, events, .waiting _ p) => ((p.run h).1, events ++ (p.run h).2.1, (p.run h).2.2)

/-- What was seen before does not depend on what comes after it. -/
theorem Progress.finish_cons (e : Event) (h : Host) (events : List Event) (p : Progress α) :
    finish (h, e :: events, p) =
      ((finish (h, events, p)).1, e :: (finish (h, events, p)).2.1,
        (finish (h, events, p)).2.2) := by
  cases p with
  | finished a => rfl
  | waiting ms p => rfl

/-- A program with its pauses comes to what it comes to without them. -/
theorem Program.finish_proceed (p : Program α) (h : Host) :
    Progress.finish (p.proceed h) = p.run h := by
  induction p generalizing h with
  | done a => rfl
  | notify n next ih =>
    show Progress.finish ((next.proceed h).1, .noticed n :: (next.proceed h).2.1,
      (next.proceed h).2.2) = _
    rw [Progress.finish_cons]
    show ((Progress.finish (next.proceed h)).1, _ :: (Progress.finish (next.proceed h)).2.1,
      (Progress.finish (next.proceed h)).2.2) = _
    rw [ih]
    rfl
  | call c next ih =>
    unfold Program.proceed
    -- A call that takes no time is answered at once; at any other one the program pauses.
    by_cases hnow : h.duration c.point = 0
    · rw [if_pos hnow]
      generalize hanswer : h.answer c = answered
      obtain ⟨h', r⟩ := answered
      show Progress.finish (((next r).proceed h').1, .called c :: ((next r).proceed h').2.1,
        ((next r).proceed h').2.2) = _
      rw [Progress.finish_cons]
      show ((Progress.finish ((next r).proceed h')).1, _ ::
        (Progress.finish ((next r).proceed h')).2.1,
        (Progress.finish ((next r).proceed h')).2.2) = _
      rw [ih]
      simp only [Program.run, hanswer]
    · rw [if_neg hnow]
      rfl

theorem Pending.finish_resume (p : Pending α) (h : Host) :
    Progress.finish (p.resume h) = p.run h :=
  Program.finish_proceed _ _

/-! ## Clear hosts. -/

theorem Program.isClear_proceed (p : Program α) {h : Host} (hclear : h.IsClear) :
    (p.proceed h).1.IsClear := by
  induction p generalizing h with
  | done a => exact hclear
  | notify n next ih => exact ih hclear
  | call c next ih =>
    unfold Program.proceed
    by_cases hnow : h.duration c.point = 0
    · rw [if_pos hnow]
      exact ih _ (h.isClear_answer hclear c)
    · rw [if_neg hnow]
      exact hclear

theorem Pending.isClear_resume (p : Pending α) {h : Host} (hclear : h.IsClear) :
    (p.resume h).1.IsClear :=
  Program.isClear_proceed _ (h.isClear_answer hclear p.call)

end QuasiGrammar
