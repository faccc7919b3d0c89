import QuasiGrammar.Proofs.Debounce.Delay
import QuasiGrammar.Proofs.Debounce.Passing

/-
  QuasiGrammar.Proofs.Debounce.Jobs
  ─────────────────────────────────
  **Jobs that are scheduled are run in line.**

  What is seen of a scheduler of jobs is the timeline of those that it has fired.
  Which ones these are is decided between one call and the next: the job of the
  last call is fired when its quiet period is over, if no other call comes
  before.
-/

namespace QuasiGrammar

variable {ι : Type}

namespace Runner

section

variable {r : JobRunner ι} {l : JobLine ι} {source : String}

/-! ## §1. What is seen. -/

/-- What was seen is the timeline of the jobs that were fired, up to now. -/
theorem log_timeline (h : Shows True r l) (hon : l.OnTime source) :
    ∃ rest, r.log ++ rest = timeline source 0 l.fired ∧ (∀ e ∈ r.log, e.1 ≤ r.clock) ∧
      (∀ e ∈ rest, r.clock ≤ e.1) ∧
        (r.isCalm (r.clock + 1) = true → ∀ e ∈ rest, r.clock < e.1) := by
  rw [← h.log, ← h.clock]
  refine ⟨Line.future source l.clock l.current l.waiting, hon.whole, hon.past, ?_, ?_⟩
  · exact fun e he => hon.le_of_mem_future he
  · intro hcalm
    rw [h.clock] at hcalm
    exact lt_of_isCalm h hon hcalm

/-- The jobs that were fired have begun, in this order, or wait. -/
theorem begun_fired (h : Shows True r l) (hon : l.OnTime source) :
    ∃ waiting, r.begun ++ waiting = l.fired.map (·.2) ∧
      (r.scheduler.running = false → waiting = []) := by
  refine ⟨l.waiting, ?_, fun hr => (line_of_not_running h hr).2⟩
  rw [← h.begun, hon.once]

end

/-- **Jobs run in line.**  Whatever calls are made, and whenever turns are taken:

1. what was seen is the timeline of the jobs that were fired, up to now, so each of them starts once,
   when it is fired or when the one before it has ended;
2. the jobs that were fired have begun, in this order, or wait;
3. a job that is scheduled is fired when its quiet period is over, unless another call comes before;
4. after a call that disarms the timer nothing is fired until the next job is scheduled;
5. nothing is fired before the first job is scheduled;
6. time may pass from here on, and then nothing is left undone that could be done by now. -/
theorem jobs_in_line (source : String) (moves : List (Move (Job ι))) :
    let start : JobRunner ι := Runner.initial ()
    let a := Job.action source
    let r := start.play a moves
    let fired := start.fired a moves
    (∃ rest, r.log ++ rest = timeline source 0 fired ∧ (∀ e ∈ r.log, e.1 ≤ r.clock) ∧
        (∀ e ∈ rest, r.clock ≤ e.1) ∧
          (r.isCalm (r.clock + 1) = true → ∀ e ∈ rest, r.clock < e.1)) ∧
      (∃ waiting, r.begun ++ waiting = fired.map (·.2) ∧
        (r.scheduler.running = false → waiting = [])) ∧
      (∀ before quiet j ts, moves = before ++ .schedule quiet j :: List.map .tick ts →
          let due := (start.play a before).clock + quiet
          (fired = start.fired a before ∧ r.clock ≤ due ∧
              (r.isCalm (r.clock + 1) = true → r.clock < due)) ∨
            fired = start.fired a before ++ [(due, j)] ∧ due ≤ r.clock) ∧
      (∀ before ts, moves = before ++ .cancel :: List.map .tick ts →
        fired = start.fired a before) ∧
      (∀ ts, moves = List.map .tick ts → fired = []) ∧
      ∀ ms, ∃ ts, r.advance a (JobRunner.rounds r) ms = r.ticks a ts ∧
        (r.ticks a ts).clock = r.clock + ms ∧
          (r.ticks a ts).isCalm (r.clock + ms + 1) = true := by
  intro start a r fired
  obtain ⟨l, hshows, hon, hfired⟩ := exists_line source moves
  have hfired : l.fired = fired := hfired
  refine ⟨?_, ?_, ?_, ?_, ?_, ?_⟩
  · rw [← hfired]
    exact log_timeline hshows hon
  · rw [← hfired]
    exact begun_fired hshows hon
  · rintro before quiet j ts rfl due
    obtain ⟨l₀, hshows₀, -, -⟩ := exists_line source before
    have hr : r = ((start.play a before).schedule (some ↑quiet) j).ticks a ts := by
      rw [← play_ticks]
      exact play_append a start before (.schedule quiet j :: ts.map .tick)
    have hf : fired = start.fired a before ++
        ((start.play a before).schedule (some ↑quiet) j).fired a (ts.map .tick) :=
      fired_append a start before (.schedule quiet j :: ts.map .tick)
    rw [hf, hr]
    rcases fired_schedule a hshows₀ quiet j ts with ⟨hnone, hrest⟩ | ⟨hone, hle⟩
    · left
      rw [hnone, List.append_nil]
      exact ⟨rfl, hrest⟩
    · right
      rw [hone]
      exact ⟨rfl, hle⟩
  · rintro before ts rfl
    obtain ⟨l₀, hshows₀, -, -⟩ := exists_line source before
    have hf : fired = start.fired a before ++
        (start.play a before).cancel.fired a (ts.map .tick) :=
      fired_append a start before (.cancel :: ts.map .tick)
    rw [hf, fired_cancel a hshows₀ ts, List.append_nil]
  · rintro ts rfl
    exact fired_initial a () ts
  · exact advance_eq_ticks (inTime_play source moves)

/-- The second call of a burst takes the place of the first one. -/
def burst : List (Move (Job Nat)) :=
  [.schedule 5 ⟨1, [3], none⟩, .tick (.wait 2), .schedule 5 ⟨2, [2], none⟩, .tick (.wait 5),
    .tick .gather, .tick .turn, .tick .turn, .tick .turn]

/-- A third call, while the job of the second one is run. -/
def burstAndOne : List (Move (Job Nat)) :=
  burst ++ .schedule 0 ⟨3, [], none⟩ :: List.map .tick
    [.gather, .turn, .turn, .wait 2, .gather, .turn, .turn, .turn, .turn, .turn]

/-- After a burst and one more call two jobs have been run. -/
theorem jobs_in_line_burst :
    ((Runner.initial () : JobRunner Nat).play (Job.action "rules") burstAndOne).begun =
        [⟨2, [2], none⟩, ⟨3, [], none⟩] ∧
      (Runner.initial () : JobRunner Nat).fired (Job.action "rules") burstAndOne =
        (Runner.initial () : JobRunner Nat).fired (Job.action "rules") burst ++
          [(7, ⟨3, [], none⟩)] := by
  obtain ⟨-, ⟨waiting, hbegun, hnone⟩, hschedule, -⟩ := jobs_in_line "rules" burstAndOne
  constructor
  · have hfired : (Runner.initial () : JobRunner Nat).fired (Job.action "rules") burstAndOne =
        [(7, ⟨2, [2], none⟩), (7, ⟨3, [], none⟩)] := rfl
    rw [hnone rfl, List.append_nil, hfired] at hbegun
    exact hbegun
  · rcases hschedule burst 0 ⟨3, [], none⟩ _ rfl with ⟨hsame, -⟩ | ⟨hone, -⟩
    · exact absurd (congrArg List.length hsame) (by decide)
    · exact hone

end Runner

end QuasiGrammar
