import Mathlib.Data.List.Induction
import QuasiGrammar.Proofs.Debounce.Simulation
import QuasiGrammar.Proofs.Source.Scripts
import QuasiGrammar.Service.Moves

/-
  QuasiGrammar.Proofs.Service.Stopping
  ────────────────────────────────────
  **What a stopped service still does.**

  The list of observers holds the service once at most, and only while the
  service holds the handle (`Observes`).  So no announcement that is made after
  a stop calls it.  But the list is copied when an announcement begins, and the
  calls of a copy are made whatever happens to the list: a service that is
  stopped in the midst of an announcement, before its own call, is called
  nevertheless, and arms its timer.

  While the service is not started again, the calls that were outstanding when
  it was stopped are all that can arm the timer, and each of them does.
-/

namespace QuasiGrammar

namespace Scene

variable {σ : Type} {l : Listener σ} {x : Scene σ}

/-! ## §1. The service among the observers. -/

/-- The service is listed once at most, and only while it holds a handle that was not disposed
of. -/
structure Observes (x : Scene σ) : Prop where
  once : x.observers.listed.count .service ≤ 1
  held : .service ∈ x.observers.listed →
    ∃ i, x.subscription = some i ∧ x.observers.handles[i]? = some ⟨.service, false⟩

theorem observes_initial (rules : List String) (scripts : List (String × List (List Deed)))
    (state : σ) : Observes (initial rules scripts state) :=
  ⟨Nat.zero_le 1, fun h => nomatch h⟩

/-- A service that is listed once is not listed once it is taken off. -/
theorem Observes.notMem_erase (h : Observes x) : .service ∉ x.observers.listed.erase .service := by
  have hone := h.once
  rw [← List.count_pos_iff, List.count_erase_self]
  omega

/-- Disposing of a handle takes the service off the list only if the handle is the service's. -/
theorem Observes.dispose (h : Observes x) (i : Nat) :
    Observes { x with observers := x.observers.dispose i } := by
  by_cases hlive : ∃ k, x.observers.handles[i]? = some ⟨k, false⟩
  · obtain ⟨k, hk⟩ := hlive
    rw [Observers.dispose_of_live hk]
    refine ⟨Nat.le_trans (List.erase_sublist.count_le _) h.once, fun hmem => ?_⟩
    obtain ⟨j, hj, hhandle⟩ := h.held (List.mem_of_mem_erase hmem)
    refine ⟨j, hj, ?_⟩
    -- Another handle than the service's was disposed of, since the service is still there.
    have hne : i ≠ j := by
      rintro rfl
      rw [hk, Option.some.injEq, Handle.mk.injEq] at hhandle
      obtain ⟨rfl, -⟩ := hhandle
      exact h.notMem_erase hmem
    simpa [hne] using hhandle
  · rw [Observers.dispose_of_not_live fun k hk => hlive ⟨k, hk⟩]
    exact h

/-- A service that has no handle is not listed. -/
theorem Observes.notMem (h : Observes x) (hstopped : x.subscription = none) :
    .service ∉ x.observers.listed := by
  intro hmem
  obtain ⟨i, hi, -⟩ := h.held hmem
  rw [hstopped] at hi
  cases hi

/-- The service is not listed once its handle has been disposed of. -/
theorem Observes.notMem_dispose (h : Observes x) {i : Nat} (hi : x.subscription = some i) :
    .service ∉ (x.observers.dispose i).listed := by
  intro hmem
  by_cases hlisted : .service ∈ x.observers.listed
  · obtain ⟨j, hj, hhandle⟩ := h.held hlisted
    cases hi.symm.trans hj
    rw [Observers.dispose_of_live hhandle] at hmem
    exact h.notMem_erase hmem
  · by_cases hlive : ∃ k, x.observers.handles[i]? = some ⟨k, false⟩
    · obtain ⟨k, hk⟩ := hlive
      rw [Observers.dispose_of_live hk] at hmem
      exact hlisted (List.mem_of_mem_erase hmem)
    · rw [Observers.dispose_of_not_live fun k hk => hlive ⟨k, hk⟩] at hmem
      exact hlisted hmem

theorem observes_perform (l : Listener σ) (h : Observes x) (d : Deed) :
    Observes (perform l d x).2 := by
  cases d with
  | observe name =>
    refine ⟨?_, fun hmem => ?_⟩
    · show (x.observers.listed ++ [Callback.host name]).count .service ≤ 1
      simpa [List.count_append] using h.once
    · have hmem : Callback.service ∈ x.observers.listed ++ [.host name] := hmem
      obtain ⟨i, hi, hhandle⟩ := h.held (by simpa using hmem)
      refine ⟨i, hi, ?_⟩
      show (x.observers.handles ++ [⟨.host name, false⟩])[i]? = _
      rw [List.getElem?_append_left (List.getElem?_eq_some_iff.1 hhandle).1]
      exact hhandle
  | dispose i => exact h.dispose i
  | set rules => exact ⟨h.once, h.held⟩
  | announce => exact h
  | invoke c =>
    cases c with
    | service => exact ⟨h.once, h.held⟩
    | host name =>
      simp only [perform]
      cases takeScript name x.scripts <;> exact ⟨h.once, h.held⟩
  | start =>
    simp only [perform]
    cases hsub : x.subscription with
    | some i => exact h
    | none =>
      refine ⟨?_, fun _ => ⟨x.observers.nextHandle, rfl, ?_⟩⟩
      · show (x.observers.listed ++ [Callback.service]).count .service ≤ 1
        simp [List.count_append, List.count_eq_zero.2 (h.notMem hsub)]
      · show (x.observers.handles ++ [⟨.service, false⟩])[x.observers.handles.length]? = _
        simp
  | stop =>
    simp only [perform]
    cases hsub : x.subscription with
    | some i =>
      exact ⟨(h.dispose i).once, fun hmem => absurd hmem (h.notMem_dispose hsub)⟩
    | none => exact ⟨h.once, fun hmem => absurd hmem (h.notMem hsub)⟩

/-! ## §2. Calls of the service. -/

/-- **While the service is stopped, no deed makes a call of it.** -/
theorem count_perform (l : Listener σ) (hobserves : Observes x) (hask : AskOnly x.scripts)
    (hstopped : x.subscription = none) (d : Deed) :
    (perform l d x).1.count (.invoke .service) = 0 :=
  count_invoke_perform l hask (hobserves.notMem hstopped) d

/-- A deed that neither starts, stops nor calls the service leaves it as it is. -/
theorem service_perform_eq (l : Listener σ) (x : Scene σ) {d : Deed} (hstart : d ≠ .start)
    (hstop : d ≠ .stop) (hcall : d ≠ .invoke .service) :
    (perform l d x).2.service = x.service := by
  cases d with
  | invoke c =>
    cases c with
    | service => exact absurd rfl hcall
    | host name =>
      simp only [perform]
      cases takeScript name x.scripts <;> rfl
  | start => exact absurd rfl hstart
  | stop => exact absurd rfl hstop
  | _ => rfl

theorem subscription_perform (l : Listener σ) (h : x.subscription = none) {d : Deed}
    (hstart : d ≠ .start) : (perform l d x).2.subscription = none := by
  cases d with
  | invoke c =>
    cases c with
    | service => exact h
    | host name =>
      simp only [perform]
      cases takeScript name x.scripts <;> exact h
  | start => exact absurd rfl hstart
  | stop =>
    simp only [perform]
    cases x.subscription <;> rfl
  | _ => exact h

theorem service_perform_stop (l : Listener σ) (x : Scene σ) :
    (perform l .stop x).2.service = l.stopped x.service := by
  simp only [perform]
  cases x.subscription <;> rfl

theorem subscription_perform_stop (l : Listener σ) (x : Scene σ) :
    (perform l .stop x).2.subscription = none := by
  simp only [perform]
  cases x.subscription <;> rfl

end Scene

/-! ## §3. The timer. -/

namespace Service

variable {s : Service} {r : ServiceRunner}

/-- The scheduler looks like a line, as it does from the beginning on. -/
def Runs (r : ServiceRunner) : Prop := ∃ l, Runner.Shows False r l

/-- A service that is told of a change looks like a line as before. -/
theorem shows_changed {exact : Prop} (s : Service) (rules : List String)
    (h : ∃ l, Runner.Shows exact r l) : ∃ l, Runner.Shows exact (s.changed rules r) l := by
  obtain ⟨l, hshows⟩ := h
  have hread := Runner.shows_state hshows (r.state.passed .rules)
  rw [changed_eq]
  cases (s.readRules rules r.state).2 with
  | error f => exact ⟨_, Runner.shows_see hread [s.warning f]⟩
  | ok rules => exact ⟨_, Runner.shows_schedule hread s.quiet rules⟩

theorem runs_changed (s : Service) (rules : List String) (h : Runs r) : Runs (s.changed rules r) :=
  shows_changed s rules h

theorem runs_cancel (h : Runs r) : Runs r.cancel := by
  obtain ⟨l, hshows⟩ := h
  exact ⟨_, Runner.shows_cancel hshows⟩

/-- What no step of a line destroys outlasts a move that does nothing with the source. -/
theorem kept_pass {P : Line (List String) Host Waiting Event → Prop}
    (hstep : ∀ {l l'}, P l → Line.Step False s.action l l' → P l') {x : Session}
    (h : ∃ l, Runner.Shows False x.service l ∧ P l) {m : SessionMove} (hpass : m.isDeed = false) :
    ∃ l, Runner.Shows False (x.move s m).service l ∧ P l := by
  cases m with
  | deed d => cases hpass
  | tick t => exact Runner.kept_tick hstep h t
  | advance ms => exact Runner.kept_advance hstep h _ ms
  | waitIdle => exact Runner.kept_waitIdle hstep h _

theorem runs_pass {x : Session} (h : Runs x.service) {m : SessionMove} (hpass : m.isDeed = false) :
    Runs (x.move s m).service := by
  obtain ⟨l, hshows⟩ := h
  obtain ⟨l', hshows', -⟩ := kept_pass (P := fun _ => True) (fun _ _ => trivial)
    ⟨l, hshows, trivial⟩ hpass
  exact ⟨l', hshows'⟩

/-- The timer is armed as the alarm is set. -/
theorem alarm_eq_none_iff {l : Line (List String) Host Waiting Event} (h : Runner.Shows False r l) :
    l.alarm = none ↔ r.scheduler.pending = false := by
  unfold Debounce.pending
  cases htimer : r.scheduler.timer with
  | none => simp [h.rings.silent htimer]
  | some t =>
    obtain ⟨-, due, halarm, -⟩ := h.rings.armed t htimer
    simp [halarm]

/-- By itself a scheduler does not arm its timer. -/
theorem alarm_step {l l' : Line (List String) Host Waiting Event} (h : l.alarm = none)
    (hstep : Line.Step False s.action l l') : l'.alarm = none := by
  cases hstep with
  | stay => exact h
  | fire => rfl
  | begin => exact (Line.alarm_serve ..).trans h
  | resume => exact (Line.alarm_serve ..).trans h
  | pass => exact h

/-- **Time arms no timer.** -/
theorem pending_pass {x : Session} (hruns : Runs x.service) {m : SessionMove}
    (hpass : m.isDeed = false) (h : x.service.scheduler.pending = false) :
    (x.move s m).service.scheduler.pending = false := by
  obtain ⟨l, hshows⟩ := hruns
  obtain ⟨l', hshows', halarm⟩ := kept_pass alarm_step
    ⟨l, hshows, (alarm_eq_none_iff hshows).2 h⟩ hpass
  exact (alarm_eq_none_iff hshows').1 halarm

/-- A call of the service arms the timer if the rules can be read: they are held, and no failure is
planned. -/
theorem pending_changed (hheld : s.origin = .held) (hclear : r.state.faults .rules = .clear)
    (rules : List String) :
    (s.changed rules r).scheduler.pending = true ∧
      (s.changed rules r).state.faults .rules = .clear := by
  have hread : s.readRules rules r.state = (r.state.passed .rules, .ok rules) := by
    simp [readRules, Host.failure?, hclear, hheld, FaultPlan.clear]
  unfold changed
  rw [hread]
  simp only [Runner.schedule]
  cases s.quiet <;> simp [Runner.plan, Host.passed, Host.plan, hclear, FaultPlan.clear]

end Service

/-! ## §4. From a stop to the next start. -/

namespace Instant

open Service

variable {s : Service}

/-- What holds at every instant of a session. -/
structure Sound (m : Instant) : Prop where
  observes : m.session.Observes
  ask : Scene.AskOnly m.session.scripts
  runs : Runs m.session.service

theorem sound_initial (rules : List String) {scripts : List (String × List (List Deed))}
    (hscripts : Scene.AskOnly scripts) (h : Host) :
    Sound ⟨[], Scene.initial rules scripts (Runner.initial h)⟩ :=
  ⟨Scene.observes_initial rules scripts _, hscripts, _, Runner.shows_initial False h⟩

theorem sound_step {m m' : Instant} {what : Option SessionMove} (h : Sound m)
    (hstep : Step s m what m') : Sound m' := by
  cases hstep with
  | deed d rest x =>
    exact ⟨Scene.observes_perform _ h.observes d, Scene.askOnly_perform _ h.ask d,
      Scene.service_perform s.listener (fun rules _ hr => runs_changed s rules hr)
        (fun _ hr => runs_cancel hr) d h.runs⟩
  | ask d x hask => exact ⟨h.observes, h.ask, h.runs⟩
  | pass move x hpass =>
    have hruns := runs_pass (s := s) h.runs hpass
    cases move with
    | deed d => cases hpass
    | tick t => exact ⟨⟨h.observes.once, h.observes.held⟩, h.ask, hruns⟩
    | advance ms => exact ⟨⟨h.observes.once, h.observes.held⟩, h.ask, hruns⟩
    | waitIdle => exact ⟨⟨h.observes.once, h.observes.held⟩, h.ask, hruns⟩
  | fail x hrest => exact ⟨h.observes, h.ask, h.runs⟩

theorem sound_course {m m' : Instant} {done : List SessionMove} (h : Sound m)
    (hcourse : Course s m done m') : Sound m' := by
  induction hcourse with
  | here => exact h
  | next _ hstep ih => exact sound_step ih hstep

/-- The call of the service. -/
def call : Deed := .invoke .service

/-- The number of calls of the service among moves. -/
def calls (done : List SessionMove) : Nat := done.count (.deed call)

/-- The number of calls of the service that are to be made. -/
def outstanding (m : Instant) : Nat := m.agenda.count call

/-- Whether a call of the service comes after the last stop. -/
def calledLast (done : List SessionMove) : Bool :=
  done.foldl (fun called m =>
    if m = .deed call then true else if m = .deed .stop then false else called) false

theorem calledLast_concat (done : List SessionMove) (m : SessionMove) :
    calledLast (done ++ [m]) =
      if m = .deed call then true else if m = .deed .stop then false else calledLast done := by
  unfold calledLast
  rw [List.foldl_append]
  rfl

/-- A service that was called last has been called. -/
theorem calls_pos {done : List SessionMove} (h : calledLast done = true) : 0 < calls done := by
  induction done using List.reverseRecOn with
  | nil => cases h
  | append_singleton done m ih =>
    rw [calledLast_concat] at h
    unfold calls at ih ⊢
    rw [List.count_append]
    by_cases hcall : m = .deed call
    · rw [hcall]
      simp
    · have hbefore : calledLast done = true := by
        by_cases hstop : m = .deed .stop
        · subst hstop
          cases h
        · simpa only [hcall, hstop, if_false] using h
      have := ih hbefore
      omega

/-- What holds from a stop, with so many calls outstanding, to the next start. -/
structure Stopped (bound : Nat) (done : List SessionMove) (m : Instant) : Prop where
  sound : Sound m
  subscription : m.session.subscription = none
  calls : calls done + outstanding m ≤ bound
  pending : m.session.service.scheduler.pending = true → calledLast done = true

theorem stopped_deed {bound : Nat} {done : List SessionMove} {d : Deed} {rest : List Deed}
    {x : Session} (h : Stopped bound done ⟨d :: rest, x⟩) (hstart : d ≠ .start) :
    Stopped bound (done ++ [.deed d])
      ⟨(Scene.perform s.listener d x).1 ++ rest, (Scene.perform s.listener d x).2⟩ where
  sound := sound_step h.sound (.deed d rest x)
  subscription := Scene.subscription_perform _ h.subscription hstart
  calls := by
    have hnone : (Scene.perform s.listener d x).1.count call = 0 :=
      Scene.count_perform _ h.sound.observes h.sound.ask h.subscription d
    have hbound := h.calls
    unfold Instant.calls outstanding at hbound ⊢
    simp only [List.count_append, List.count_cons, List.count_nil, hnone] at hbound ⊢
    by_cases hcall : d = call
    · simp [hcall] at hbound ⊢
      omega
    · simp [hcall] at hbound ⊢
      omega
  pending := by
    intro hpending
    rw [calledLast_concat]
    by_cases hcall : d = call
    · simp [hcall]
    · by_cases hstop : d = .stop
      · subst hstop
        have hservice : (Scene.perform s.listener .stop x).2.service = x.service.cancel :=
          Scene.service_perform_stop _ x
        rw [hservice] at hpending
        have hcancelled : x.service.cancel.scheduler.pending = false :=
          Debounce.pending_cancel x.service.scheduler
        rw [hcancelled] at hpending
        cases hpending
      · rw [Scene.service_perform_eq _ x hstart hstop hcall] at hpending
        simpa [hcall, hstop] using h.pending hpending

theorem stopped_step {bound : Nat} {done : List SessionMove} {m m' : Instant}
    {what : Option SessionMove} (h : Stopped bound done m) (hstep : Step s m what m')
    (hstart : what ≠ some (.deed .start)) : Stopped bound (done ++ what.toList) m' := by
  have hsound := sound_step h.sound hstep
  cases hstep with
  | deed d rest x =>
    exact stopped_deed h fun hd => hstart (by rw [hd])
  | ask d x hask =>
    have hnone : outstanding ⟨[d], x⟩ = 0 := by
      refine List.count_eq_zero.2 fun hmem => ?_
      rw [← List.mem_singleton.1 hmem] at hask
      cases hask
    refine ⟨hsound, h.subscription, ?_, by simpa using h.pending⟩
    have := h.calls
    rw [hnone, Option.toList_none, List.append_nil]
    omega
  | pass move x hpass =>
    have hother : ∀ d, move ≠ .deed d := by
      rintro d rfl
      cases hpass
    have hsubscription : (x.move s move).subscription = none := by
      cases move with
      | deed d => cases hpass
      | _ => exact h.subscription
    refine ⟨hsound, hsubscription, ?_, ?_⟩
    · have hsame : calls (done ++ [move]) = calls done := by
        simp [calls, List.count_append, hother]
      exact hsame ▸ h.calls
    · intro hpending
      rw [Option.toList_some, calledLast_concat, if_neg (hother _), if_neg (hother _)]
      refine h.pending (Bool.not_eq_false _ ▸ fun hsilent => ?_)
      rw [pending_pass h.sound.runs hpass hsilent] at hpending
      cases hpending
  | fail x hrest =>
    refine ⟨hsound, h.subscription, ?_, by simpa using h.pending⟩
    have hfewer := hrest.sublist.count_le call
    have := h.calls
    unfold outstanding at this ⊢
    rw [Option.toList_none, List.append_nil]
    simp only at this ⊢
    omega

theorem stopped_course {bound : Nat} {m m' : Instant} {done : List SessionMove}
    (h : Stopped bound [] m) (hcourse : Course s m done m') (hstart : .deed .start ∉ done) :
    Stopped bound done m' := by
  induction hcourse with
  | here => exact h
  | next _ hstep ih =>
    rw [List.mem_append, not_or] at hstart
    refine stopped_step (ih hstart.1) hstep ?_
    rintro rfl
    exact hstart.2 List.mem_cons_self

/-- A stop. -/
theorem stopped_stop {rest : List Deed} {x : Session} (h : Sound ⟨.stop :: rest, x⟩) :
    Stopped (rest.count call) [] ⟨rest, (Scene.perform s.listener .stop x).2⟩ where
  sound := by
    have hsound := sound_step (s := s) h (.deed .stop rest x)
    exact ⟨hsound.observes, hsound.ask, hsound.runs⟩
  subscription := Scene.subscription_perform_stop _ x
  calls := by
    show 0 + rest.count call ≤ rest.count call
    exact Nat.le_of_eq (Nat.zero_add _)
  pending := by
    have hservice : (Scene.perform s.listener .stop x).2.service = x.service.cancel :=
      Scene.service_perform_stop _ x
    intro hpending
    rw [hservice] at hpending
    exact absurd hpending (Bool.eq_false_iff.1 (Debounce.pending_cancel x.service.scheduler))

/-- While no time goes by, a service that can read its rules has its timer armed once it is called,
until it is stopped. -/
theorem armed_course (hheld : s.origin = .held) {m m' : Instant} {done : List SessionMove}
    (hcourse : Course s m done m') (hclear : m.session.host.faults .rules = .clear)
    (hdeeds : ∀ move ∈ done, move.isDeed = true) (hstart : .deed .start ∉ done) :
    m'.session.host.faults .rules = .clear ∧
      (calledLast done = true → m'.session.service.scheduler.pending = true) := by
  induction hcourse with
  | here => exact ⟨hclear, nofun⟩
  | next hbefore hstep ih =>
    rw [List.mem_append, not_or] at hstart
    rw [List.forall_mem_append] at hdeeds
    obtain ⟨hclear, hpending⟩ := ih hdeeds.1 hstart.1
    cases hstep with
    | deed d rest x =>
      have hnotstart : d ≠ .start := by
        rintro rfl
        exact hstart.2 List.mem_cons_self
      rw [Option.toList_some, calledLast_concat]
      by_cases hcall : d = call
      · subst hcall
        obtain ⟨harmed, hstill⟩ := pending_changed (r := x.service) hheld hclear x.rules
        exact ⟨hstill, fun _ => harmed⟩
      · by_cases hstop : d = .stop
        · subst hstop
          have hservice : (Scene.perform s.listener .stop x).2.service = x.service.cancel :=
            Scene.service_perform_stop _ x
          refine ⟨?_, by simp [call]⟩
          show (Scene.perform s.listener .stop x).2.service.state.faults .rules = .clear
          rw [hservice]
          exact hclear
        · have hsame := Scene.service_perform_eq s.listener x hnotstart hstop hcall
          refine ⟨?_, fun hlast => ?_⟩
          · show (Scene.perform s.listener d x).2.service.state.faults .rules = .clear
            rw [hsame]
            exact hclear
          · simp only [SessionMove.deed.injEq, hcall, hstop, if_false] at hlast
            rw [hsame]
            exact hpending hlast
    | ask d x hask => exact ⟨hclear, by simpa using hpending⟩
    | pass move x hpass =>
      have := hdeeds.2 move List.mem_cons_self
      rw [hpass] at this
      cases this
    | fail x hrest => exact ⟨hclear, by simpa using hpending⟩

section

variable (s : Service) (h : Host) (rules : List String) {scripts : List (String × List (List Deed))}
  {before after : List SessionMove} {rest : List Deed} {x : Session} {m : Instant}

/-- **Between a stop and the next start, only calls that were outstanding at the stop arm the timer,
and each of them does.**  Some observers do what they like with the source, and the service is
stopped at some instant; look at a later instant, before it is started again.

1. The calls of the service that have been made since the stop, and those that are still to be made,
   were outstanding at the stop: the announcements that were under way had listed them already.
2. If the timer is armed, the service has been called since the last stop.
3. If the service has been called since the last stop, its rules can be read, and no time has gone
   by, the timer is armed. -/
theorem pending_after_stop (hscripts : Scene.AskOnly scripts)
    (hreach : Course s ⟨[], Scene.initial rules scripts (Runner.initial h)⟩ before
      ⟨.stop :: rest, x⟩)
    (hlater : Course s ⟨rest, (Scene.perform s.listener .stop x).2⟩ after m)
    (hstart : .deed .start ∉ after) :
    calls after + outstanding m ≤ rest.count call ∧
      (m.session.service.scheduler.pending = true → calledLast after = true) ∧
      (s.origin = .held → x.host.faults .rules = .clear →
        (∀ move ∈ after, move.isDeed = true) → calledLast after = true →
          m.session.service.scheduler.pending = true) := by
  have hsound := sound_course (sound_initial rules hscripts h) hreach
  have hstopped := stopped_course (stopped_stop (s := s) hsound) hlater hstart
  refine ⟨hstopped.calls, hstopped.pending, fun hheld hclear hdeeds hlast => ?_⟩
  have hservice : (Scene.perform s.listener .stop x).2.service = x.service.cancel :=
    Scene.service_perform_stop _ x
  have hclear : (Scene.perform s.listener .stop x).2.service.state.faults .rules = .clear := by
    rw [hservice]
    exact hclear
  exact (armed_course hheld hlater hclear hdeeds hstart).2 hlast

/-- If no call of the service is outstanding when it is stopped, as when it is stopped outside of
all announcements, nothing arms the timer before the next start. -/
theorem pending_eq_false_of_none_outstanding (hscripts : Scene.AskOnly scripts)
    (hreach : Course s ⟨[], Scene.initial rules scripts (Runner.initial h)⟩ before
      ⟨.stop :: rest, x⟩)
    (hnone : call ∉ rest)
    (hlater : Course s ⟨rest, (Scene.perform s.listener .stop x).2⟩ after m)
    (hstart : .deed .start ∉ after) : m.session.service.scheduler.pending = false := by
  have hsound := sound_course (sound_initial rules hscripts h) hreach
  have hstopped := stopped_course (stopped_stop (s := s) hsound) hlater hstart
  have hcalls := hstopped.calls
  rw [List.count_eq_zero.2 hnone] at hcalls
  refine Bool.eq_false_iff.2 fun hpending => ?_
  have := calls_pos (hstopped.pending hpending)
  omega

end

/-- A service whose rules are held. -/
def heldService : Service := ⟨{}, none, ⟨.root⟩, .root, .held⟩

/-- An observer that stops the service when it is called. -/
def quitter : List (String × List (List Deed)) := [("A", [[.stop]])]

/-- The session after some deeds, with such an observer at hand. -/
def withQuitter (deeds : List Deed) : Session :=
  deeds.foldl (fun x d => (Scene.perform heldService.listener d x).2)
    (Scene.initial [] quitter (Runner.initial (.calm ⟨[]⟩ heldService.directory)))

/-- The observer and the service observe the source, the rules are set, and the observer has just
been called. -/
def interrupted : Session :=
  withQuitter [.observe "A", .start, .set ["x:y"], .invoke (.host "A")]

theorem course_interrupted :
    Course heldService
      ⟨[], Scene.initial [] quitter (Runner.initial (.calm ⟨[]⟩ heldService.directory))⟩
      [.deed (.observe "A"), .deed .start, .deed (.set ["x:y"]), .deed (.invoke (.host "A"))]
      ⟨[.stop, call], interrupted⟩ := by
  have hobserved : Course heldService ⟨[], withQuitter []⟩ [.deed (.observe "A")]
      ⟨[], withQuitter [.observe "A"]⟩ :=
    ((Course.here _).next (.ask (.observe "A") _ rfl)).next (.deed (.observe "A") [] _)
  have hstarted : Course heldService ⟨[], withQuitter []⟩ [.deed (.observe "A"), .deed .start]
      ⟨[], withQuitter [.observe "A", .start]⟩ :=
    (hobserved.next (.ask .start _ rfl)).next (.deed .start [] _)
  have hset : Course heldService ⟨[], withQuitter []⟩
      [.deed (.observe "A"), .deed .start, .deed (.set ["x:y"])]
      ⟨[.invoke (.host "A"), call], withQuitter [.observe "A", .start, .set ["x:y"]]⟩ :=
    (hstarted.next (.ask (.set ["x:y"]) _ rfl)).next (.deed (.set ["x:y"]) [] _)
  exact hset.next (.deed (.invoke (.host "A")) [call] _)

theorem course_stopped :
    Course heldService ⟨[call], (Scene.perform heldService.listener .stop interrupted).2⟩
      [.deed call]
      ⟨[], (Scene.perform heldService.listener call
        (Scene.perform heldService.listener .stop interrupted).2).2⟩ :=
  (Course.here _).next (.deed call [] _)

theorem askOnly_quitter : Scene.AskOnly quitter := by
  simp [Scene.AskOnly, quitter, Deed.isCall]

/-- A service that is stopped in the midst of an announcement, before its own call. -/
theorem pending_when_interrupted :
    (Scene.perform heldService.listener call
      (Scene.perform heldService.listener .stop interrupted).2).2.service.scheduler.pending =
        true :=
  (pending_after_stop heldService _ [] askOnly_quitter course_interrupted course_stopped
    (by decide)).2.2 rfl rfl (by decide) rfl

/-- So the timer can be armed between a stop and the next start. -/
theorem not_unarmed_after_stop :
    ¬ ∀ (s : Service) (h : Host) (rules : List String) (scripts : List (String × List (List Deed)))
      (before after : List SessionMove) (rest : List Deed) (x : Session) (m : Instant),
      Scene.AskOnly scripts →
      Course s ⟨[], Scene.initial rules scripts (Runner.initial h)⟩ before ⟨.stop :: rest, x⟩ →
      Course s ⟨rest, (Scene.perform s.listener .stop x).2⟩ after m →
      .deed .start ∉ after → m.session.service.scheduler.pending = false := by
  intro hclaim
  have hsilent := hclaim heldService _ [] quitter _ _ _ _ _ askOnly_quitter course_interrupted
    course_stopped (by decide)
  have harmed : (Scene.perform heldService.listener call
      (Scene.perform heldService.listener .stop interrupted).2).2.service.scheduler.pending =
        true := rfl
  rw [harmed] at hsilent
  cases hsilent

end Instant

end QuasiGrammar
