import QuasiGrammar.Debounce.Job
import QuasiGrammar.Debounce.Line

/-
  QuasiGrammar.Proofs.Debounce.Timeline
  ─────────────────────────────────────
  **Each input whose timer fires is run once, in order, one at a time.**

  The timeline of the inputs that were fired is what ought to be seen: each job
  starts when it is fired or when the job before it has ended, whichever is
  later, and ends when its pauses are over.  At every moment, what was seen and
  what is still to come of the line together are that timeline
  (`Line.OnTime`), so nothing is lost, doubled, moved or run beside something
  else.
-/

namespace QuasiGrammar

variable {ι : Type}

/-! ## §1. Timelines. -/

namespace Job

/-- What is seen at the end of a job: that it has ended, or a warning of its failure, unless the user
has been told. -/
def lastEvents (source : String) (j : Job ι) : List (JobEvent ι) :=
  match j.failure with
  | none => [.ended j.input]
  | some f => if f.isReported then [] else [warning source f]

end Job

/-- What is seen of jobs that are run one after another, each at its time or when the one before it
has ended; the first one has to wait until some time. -/
def timeline (source : String) (free : Nat) : List (Nat × Job ι) → List (Nat × JobEvent ι)
  | [] => []
  | (time, j) :: rest =>
      let start := max time free
      let stop := start + j.duration
      (start, .started j.input) :: (j.lastEvents source).map (fun e => (stop, e)) ++
        timeline source stop rest

/-- When the last of these jobs has ended. -/
def freeAfter (free : Nat) : List (Nat × Job ι) → Nat
  | [] => free
  | (time, j) :: rest => freeAfter (max time free + j.duration) rest

theorem timeline_append (source : String) (free : Nat) (before after : List (Nat × Job ι)) :
    timeline source free (before ++ after) =
      timeline source free before ++ timeline source (freeAfter free before) after := by
  induction before generalizing free with
  | nil => rfl
  | cons p rest ih =>
    obtain ⟨time, j⟩ := p
    simp only [List.cons_append, timeline, freeAfter, ih, List.append_assoc]

theorem freeAfter_append (free : Nat) (before after : List (Nat × Job ι)) :
    freeAfter free (before ++ after) = freeAfter (freeAfter free before) after := by
  induction before generalizing free with
  | nil => rfl
  | cons p rest ih =>
    obtain ⟨time, j⟩ := p
    simp only [List.cons_append, freeAfter, ih]

theorem le_freeAfter (free : Nat) (jobs : List (Nat × Job ι)) : free ≤ freeAfter free jobs := by
  induction jobs generalizing free with
  | nil => exact Nat.le_refl _
  | cons p rest ih =>
    obtain ⟨time, j⟩ := p
    have := ih (max time free + j.duration)
    simp only [freeAfter]
    omega

/-- Nothing is seen before the first job can start. -/
theorem le_of_mem_timeline {source : String} {free : Nat} {jobs : List (Nat × Job ι)}
    {e : Nat × JobEvent ι} (he : e ∈ timeline source free jobs) : free ≤ e.1 := by
  induction jobs generalizing free with
  | nil => cases he
  | cons p rest ih =>
    obtain ⟨time, j⟩ := p
    simp only [timeline, List.cons_append, List.mem_cons, List.mem_append, List.mem_map] at he
    rcases he with rfl | ⟨e', -, rfl⟩ | he
    · exact Nat.le_max_right _ _
    · show free ≤ max time free + j.duration
      omega
    · have := ih he
      omega

/-! ## §2. A line of jobs. -/

/-- A line of jobs. -/
abbrev JobLine (ι : Type) := Line (Job ι) Unit (Job ι) (JobEvent ι)

namespace Line

/-- When the one who is served is done. -/
def free (clock : Nat) (current : Option (Paused (Job ι) (Job ι))) : Nat :=
  match current with
  | none => clock
  | some p => p.due + p.task.duration

/-- What is still to be seen of the one who is served. -/
def closing (source : String) (current : Option (Paused (Job ι) (Job ι))) :
    List (Nat × JobEvent ι) :=
  match current with
  | none => []
  | some p => (p.task.lastEvents source).map fun e => (p.due + p.task.duration, e)

/-- The jobs that wait, as jobs that are ready to start. -/
def backlog (waiting : List (Job ι)) : List (Nat × Job ι) := waiting.map fun j => (0, j)

/-- What is still to be seen of a line. -/
def future (source : String) (clock : Nat) (current : Option (Paused (Job ι) (Job ι)))
    (waiting : List (Job ι)) : List (Nat × JobEvent ι) :=
  closing source current ++ timeline source (free clock current) (backlog waiting)

/-- A line of jobs that keeps its time: what was seen and what is to come are the timeline of the
jobs that were fired. -/
structure OnTime (source : String) (l : JobLine ι) : Prop where
  whole : l.log ++ future source l.clock l.current l.waiting = timeline source 0 l.fired
  idle : l.current = none → l.waiting = [] → freeAfter 0 l.fired ≤ l.clock
  busy : l.current ≠ none ∨ l.waiting ≠ [] →
    freeAfter 0 l.fired = freeAfter (free l.clock l.current) (backlog l.waiting)
  pause : ∀ p, l.current = some p → l.clock ≤ p.due
  alarm : ∀ due? j, l.alarm = some (due?, j) → ∃ due : Nat, due? = some ↑due ∧ l.clock ≤ due
  once : l.begun ++ l.waiting = l.fired.map (·.2)
  past : ∀ e ∈ l.log, e.1 ≤ l.clock

/-! ## §3. Serving a job. -/

/-- A job is served up to its next pause, or to its end: what is to come of it stays the same. -/
theorem serve_stretch (source : String) (l : JobLine ι) (inputs j : Job ι) :
    let l' := l.serve (Job.action source) inputs j.stretch
    free l'.clock l'.current = l.clock + j.duration ∧
      l'.log ++ closing source l'.current =
        l.log ++ (j.lastEvents source).map fun e => (l.clock + j.duration, e) := by
  -- Without pauses the job leaves now, and with them it leaves later by the first of them.
  cases hp : j.pauses with
  | nil =>
    have hnow : l.clock + j.duration = l.clock := by
      unfold Job.duration
      rw [hp]
      rfl
    rw [hnow]
    unfold Job.stretch Job.closing Line.serve Job.lastEvents
    rw [hp]
    cases hf : j.failure with
    | none => exact ⟨rfl, by simp [closing, Line.see, Runner.warningOf]⟩
    | some f =>
      refine ⟨by simp [free, Line.see], ?_⟩
      by_cases hr : f.isReported = true
      · simp [closing, Line.see, Runner.warningOf, hr]
      · simp [closing, Line.see, Runner.warningOf, hr, Job.action]
  | cons ms rest =>
    have hsum : j.duration = ms + total id rest := by
      unfold Job.duration
      rw [hp]
      rfl
    unfold Job.stretch Line.serve
    rw [hp, hsum]
    have hfree : l.clock + ms + total id rest = l.clock + (ms + total id rest) := by omega
    refine ⟨hfree, ?_⟩
    show (l.log ++ []) ++ (Job.lastEvents source j).map (fun e => (l.clock + ms + total id rest, e)) = _
    rw [List.append_nil, hfree]

/-- Serving keeps what was seen, and adds to it what is seen now. -/
theorem past_serve {source : String} {l : JobLine ι} (inputs j : Job ι)
    (h : ∀ e ∈ l.log, e.1 ≤ l.clock) :
    ∀ e ∈ (l.serve (Job.action source) inputs j.stretch).log, e.1 ≤ l.clock := by
  have hsee : ∀ (m : JobLine ι) (events : List (JobEvent ι)), m.clock = l.clock →
      (∀ e ∈ m.log, e.1 ≤ l.clock) → ∀ e ∈ (m.see events).log, e.1 ≤ l.clock := by
    intro m events hclock hm e he
    rcases List.mem_append.1 he with he | he
    · exact hm e he
    · obtain ⟨e', -, rfl⟩ := List.mem_map.1 he
      exact Nat.le_of_eq hclock
  unfold serve
  cases j.stretch.stop with
  | paused ms task => exact hsee _ _ rfl h
  | ended r => exact hsee _ _ rfl (hsee _ _ rfl h)

theorem serve_opening (source : String) (l : JobLine ι) (j : Job ι) :
    l.serve (Job.action source) j j.opening =
      (l.see [.started j.input]).serve (Job.action source) j j.stretch := by
  unfold Job.opening Line.serve Line.see
  cases j.stretch.stop with
  | paused ms task => simp
  | ended r => simp

/-! ## §4. Every step keeps the time. -/

section Steps

variable {source : String} {l l' : JobLine ι}

theorem onTime_initial (source : String) : OnTime source (Line.initial () : JobLine ι) where
  whole := rfl
  idle _ _ := Nat.le_refl _
  busy := by
    rintro (h | h)
    · exact absurd rfl h
    · exact absurd rfl h
  pause _ hp := nomatch hp
  alarm _ _ ha := nomatch ha
  once := rfl
  past _ he := nomatch he

theorem onTime_schedule (h : OnTime source l) (quiet : Nat) (j : Job ι) :
    OnTime source (l.schedule (some ↑quiet) j) :=
  { h with
    alarm := by
      rintro due? j' ⟨⟩
      exact ⟨l.clock + quiet, by simp, Nat.le_add_right _ _⟩ }

theorem onTime_cancel (h : OnTime source l) : OnTime source l.cancel :=
  { h with alarm := fun _ _ ha => nomatch ha }

theorem OnTime.le_free (h : OnTime source l) : l.clock ≤ free l.clock l.current := by
  unfold free
  cases hcur : l.current with
  | none => exact Nat.le_refl _
  | some p =>
    have := h.pause p hcur
    show l.clock ≤ p.due + p.task.duration
    omega

/-- A job that is fired joins the end of the line, and of the timeline. -/
theorem onTime_fire (h : OnTime source l) (j : Job ι) : OnTime source (l.fire j) := by
  have hbacklog : backlog (l.waiting ++ [j]) = backlog l.waiting ++ [(0, j)] := List.map_append
  have hle := h.le_free
  have hlast := le_freeAfter (free l.clock l.current) (backlog l.waiting)
  -- In an empty line the job starts at once, and else after the last one in it.
  have hstart : max l.clock (freeAfter 0 l.fired) =
      max 0 (freeAfter (free l.clock l.current) (backlog l.waiting)) := by
    by_cases hempty : l.current = none ∧ l.waiting = []
    · have hidle := h.idle hempty.1 hempty.2
      rw [hempty.1, hempty.2]
      show max l.clock (freeAfter 0 l.fired) = max 0 l.clock
      omega
    · have hbusy := h.busy (Classical.not_and_iff_not_or_not.1 hempty)
      omega
  refine { h with whole := ?_, idle := ?_, busy := ?_, alarm := ?_, once := ?_ }
  · -- Both the future and the timeline are longer by this job, which has its place at their ends.
    show l.log ++ future source l.clock l.current (l.waiting ++ [j]) =
      timeline source 0 (l.fired ++ [(l.clock, j)])
    unfold future
    rw [hbacklog, timeline_append, timeline_append, ← h.whole, future]
    have hsame : timeline source (freeAfter 0 l.fired) [(l.clock, j)] =
        timeline source (freeAfter (free l.clock l.current) (backlog l.waiting)) [(0, j)] := by
      simp only [timeline, hstart]
    rw [hsame]
    simp only [List.append_assoc]
  · -- Now somebody waits.
    intro _ hnil
    simp [Line.fire] at hnil
  · intro _
    show freeAfter 0 (l.fired ++ [(l.clock, j)]) =
      freeAfter (free l.clock l.current) (backlog (l.waiting ++ [j]))
    rw [hbacklog, freeAfter_append, freeAfter_append]
    simp only [freeAfter, hstart]
  · rintro _ _ ⟨⟩
  · show l.begun ++ (l.waiting ++ [j]) = (l.fired ++ [(l.clock, j)]).map (·.2)
    rw [← List.append_assoc, h.once, List.map_append]
    rfl

/-- Whoever is served for a stretch at the time when it was free keeps the line in time. -/
theorem onTime_serve {inputs j : Job ι}
    (hwhole : l.log ++ ((j.lastEvents source).map (fun e => (l.clock + j.duration, e)) ++
      timeline source (l.clock + j.duration) (backlog l.waiting)) = timeline source 0 l.fired)
    (hends : freeAfter 0 l.fired = freeAfter (l.clock + j.duration) (backlog l.waiting))
    (halarm : ∀ due? j, l.alarm = some (due?, j) → ∃ due : Nat, due? = some ↑due ∧ l.clock ≤ due)
    (honce : l.begun ++ l.waiting = l.fired.map (·.2)) (hpast : ∀ e ∈ l.log, e.1 ≤ l.clock) :
    OnTime source (l.serve (Job.action source) inputs j.stretch) := by
  obtain ⟨hfree, hseen⟩ := serve_stretch source l inputs j
  have hclock := clock_serve (Job.action source) inputs j.stretch l
  -- What is seen now was the beginning of the future.
  refine
    { whole := ?_
      idle := ?_
      busy := ?_
      pause := ?_
      alarm := ?_
      once := ?_
      past := ?_ }
  · rw [future, ← List.append_assoc, hseen, hfree, waiting_serve, fired_serve, ← hwhole,
      List.append_assoc]
  · intro hcur hnil
    rw [waiting_serve] at hnil
    rw [hcur, hclock] at hfree
    rw [fired_serve, hends, hnil, hclock]
    show l.clock + j.duration ≤ l.clock
    have : l.clock = l.clock + j.duration := hfree
    omega
  · intro _
    rw [hfree, waiting_serve, fired_serve]
    exact hends
  · intro p hp
    rw [hclock]
    unfold serve at hp
    cases hstop : j.stretch.stop with
    | paused ms task =>
      rw [hstop] at hp
      cases hp
      exact Nat.le_add_right _ _
    | ended r =>
      rw [hstop] at hp
      cases hp
  · intro due? j' hal
    rw [alarm_serve] at hal
    rw [hclock]
    exact halarm due? j' hal
  · rw [begun_serve, waiting_serve, fired_serve]
    exact honce
  · rw [hclock]
    exact past_serve inputs j hpast

theorem onTime_begin {j : Job ι} {rest : List (Job ι)} (h : OnTime source l)
    (hfree : l.current = none) (hwaiting : l.waiting = j :: rest) :
    OnTime source (l.begin (Job.action source) j rest) := by
  have hwhole := h.whole
  have hbusy := h.busy (.inr (by rw [hwaiting]; exact List.cons_ne_nil _ _))
  rw [hfree, hwaiting] at hwhole hbusy
  have hstart : max 0 l.clock = l.clock := Nat.max_eq_right (Nat.zero_le _)
  show OnTime source (serve (Job.action source) j j.opening _)
  rw [serve_opening]
  -- The start is seen now, and the job is due to end when its pauses are over.
  refine onTime_serve ?_ ?_ h.alarm ?_ ?_
  · show (l.log ++ [(l.clock, .started j.input)]) ++ _ = timeline source 0 l.fired
    rw [← hwhole]
    unfold future closing free backlog
    simp only [List.map_cons, timeline, hstart, List.nil_append, List.append_assoc,
      List.cons_append, see]
  · show freeAfter 0 l.fired = _
    rw [hbusy]
    unfold free backlog
    simp only [List.map_cons, freeAfter, hstart, see]
  · show (l.begun ++ [j]) ++ rest = l.fired.map (·.2)
    rw [← h.once, hwaiting, List.append_assoc]
    rfl
  · intro e he
    rcases List.mem_append.1 he with he | he
    · exact h.past e he
    · rw [List.map_singleton, List.mem_singleton] at he
      rw [he]
      exact Nat.le_refl _

theorem onTime_resume {p : Paused (Job ι) (Job ι)} (h : OnTime source l)
    (hcurrent : l.current = some p) (hdue : p.due = l.clock) :
    OnTime source (l.resume (Job.action source) p) := by
  have hwhole := h.whole
  have hbusy := h.busy (.inl (by rw [hcurrent]; exact Option.some_ne_none p))
  rw [hcurrent] at hwhole hbusy
  refine onTime_serve ?_ ?_ h.alarm h.once h.past
  · rw [← hwhole, ← hdue]
    rfl
  · rw [hbusy, ← hdue]
    rfl

/-- The clock may go on until something is due, if nobody is there to be served. -/
theorem onTime_pass {time : Nat} (h : OnTime source l) (hlater : l.clock ≤ time)
    (hline : l.current = none → l.waiting = [])
    (hpause : ∀ p, l.current = some p → time ≤ p.due)
    (halarm : ∀ due j, l.alarm = some (some due, j) → (time : Int) ≤ due) :
    OnTime source { l with clock := time } := by
  -- Only an empty line has a future that depends on the clock, and that one has none.
  have hfuture : future source time l.current l.waiting =
      future source l.clock l.current l.waiting := by
    cases hcur : l.current with
    | none =>
      rw [hline hcur]
      rfl
    | some p => rfl
  refine
    { whole := ?_
      idle := ?_
      busy := ?_
      pause := hpause
      alarm := ?_
      once := h.once
      past := ?_ }
  · show l.log ++ future source time l.current l.waiting = _
    rw [hfuture]
    exact h.whole
  · intro hcur hnil
    exact Nat.le_trans (h.idle hcur hnil) hlater
  · intro hne
    rw [h.busy hne]
    cases hcur : l.current with
    | none =>
      rcases hne with hne | hne
      · exact absurd hcur hne
      · exact absurd (hline hcur) hne
    | some p => rfl
  · intro due? j hal
    obtain ⟨due, rfl, -⟩ := h.alarm due? j hal
    have := halarm due j hal
    exact ⟨due, rfl, by show time ≤ due; omega⟩
  · intro e he
    exact Nat.le_trans (h.past e he) hlater

/-- Every step of a line that goes in time keeps its time. -/
theorem onTime_step (h : OnTime source l) (hstep : Step True (Job.action source) l l') :
    OnTime source l' := by
  cases hstep with
  | stay => exact h
  | fire _ _ => exact onTime_fire h _
  | begin hfree hwaiting => exact onTime_begin h hfree hwaiting
  | resume hcurrent hdue => exact onTime_resume h hcurrent (hdue trivial)
  | pass hlater hline hpause halarm =>
    exact onTime_pass h (hlater trivial) (hline trivial) (hpause trivial) (halarm trivial)

end Steps

theorem OnTime.le_of_mem_future {source : String} {l : JobLine ι} (h : OnTime source l)
    {e : Nat × JobEvent ι} (he : e ∈ future source l.clock l.current l.waiting) :
    l.clock ≤ e.1 := by
  rcases List.mem_append.1 he with he | he
  · cases hcur : l.current with
    | none =>
      rw [hcur] at he
      cases he
    | some p =>
      rw [hcur] at he
      obtain ⟨e', -, rfl⟩ := List.mem_map.1 he
      have := h.pause p hcur
      show l.clock ≤ p.due + p.task.duration
      omega
  · exact Nat.le_trans h.le_free (le_of_mem_timeline he)

end Line

end QuasiGrammar
