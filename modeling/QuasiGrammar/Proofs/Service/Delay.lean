import QuasiGrammar.Proofs.Debounce.Delay
import QuasiGrammar.Proofs.Number.Millis
import QuasiGrammar.Proofs.Service.Stopping
import QuasiGrammar.Proofs.Settings.Reading
import QuasiGrammar.Service.Account

/-
  QuasiGrammar.Proofs.Service.Delay
  ─────────────────────────────────
  **When the service builds, with the quiet period that a settings file gives.**

  A change that the service is told of is followed by a build when the quiet
  period is over, in milliseconds (`FiresAfter`), if the period can be a delay
  at all.  A settings file is read with every number that is not below zero, and
  among these are an infinite one, after which nothing is built (`NeverFires`),
  and the one that is "not a number".  All others can be delays
  (`quietPeriod_isUsable_iff`).
-/

namespace QuasiGrammar

open Number

/-! ## §1. Quiet periods. -/

namespace Settings

variable {inner : List (Value × Value)} {settings : Settings}

/-- The value is a finite number. -/
inductive IsFiniteNumber : Value → Prop
  | int (i : Int) : IsFiniteNumber (.int i)
  | float {x : Binary64} (h : x.isFinite = true) : IsFiniteNumber (.float x)

/-- **A quiet period that has been read can be a delay just if it is a finite number**, and otherwise
it is infinite, or "not a number". -/
theorem Describes.isUsable_iff (h : Describes inner settings) :
    (settings.quietPeriod.IsUsable ↔ IsFiniteNumber (quietIn inner)) ∧
      (¬ settings.quietPeriod.IsUsable →
        settings.quietPeriod = .infinite false ∨ settings.quietPeriod = .nan) := by
  have hseconds := h.quietPeriod
  have hperiod := h.period
  generalize quietIn inner = v at hperiod hseconds ⊢
  generalize settings.quietPeriod = x at hseconds ⊢
  cases hperiod with
  | @int i hi =>
    cases hx : Binary64.ofInt? i with
    | none =>
      simp only [secondsOf, hx] at hseconds
      cases hseconds
    | some y =>
      simp only [secondsOf, hx] at hseconds
      cases hseconds
      have husable := Binary64.isUsable_ofInt? hi hx
      exact ⟨iff_of_true husable (.int i), fun hnot => absurd husable hnot⟩
  | @float y hy =>
    cases hseconds
    cases x with
    | finite s m e =>
      have husable := Binary64.isUsable_iff.2 ⟨rfl, hy⟩
      exact ⟨iff_of_true husable (.float rfl), fun hnot => absurd husable hnot⟩
    | infinite s =>
      cases hy
      refine ⟨iff_of_false (fun husable => ?_) (fun hfinite => ?_), fun _ => .inl rfl⟩
      · cases (Binary64.isUsable_iff.1 husable).1
      · cases hfinite with
        | float hfinite => cases hfinite
    | nan =>
      refine ⟨iff_of_false (fun husable => ?_) (fun hfinite => ?_), fun _ => .inr rfl⟩
      · cases (Binary64.isUsable_iff.1 husable).1
      · cases hfinite with
        | float hfinite => cases hfinite
  | noNumber node =>
    cases hseconds
    refine ⟨iff_of_false (fun husable => ?_) (fun hfinite => ?_), fun _ => .inr rfl⟩
    · cases (Binary64.isUsable_iff.1 husable).1
    · cases hfinite

end Settings

/-! ## §2. The service until the next change. -/

/-- Whether a step leaves the timer to itself: nothing is scheduled or cancelled in it, and the clock
goes only as it does by itself. -/
def ServiceStep.isPassive : ServiceStep → Bool
  | .tick _ | .host _ => true
  | _ => false

namespace Service

variable {s : Service} {r : ServiceRunner}

/-- The rules that are fired by steps, with their times. -/
def firings (s : Service) (r : ServiceRunner) : List ServiceStep → List (Nat × List String)
  | [] => []
  | m :: rest =>
      (match m with
        | .tick t => (r.firedBy (.tick t)).toList
        | _ => []) ++ firings s (s.step r m) rest

/-- A build of rules that the service schedules is fired so many milliseconds later.  Whatever has
happened before, and until the next change is told of or the service is stopped: either its time has
not come, or it has been fired at this time, and only then. -/
def FiresAfter (s : Service) (ms : Nat) : Prop :=
  ∀ (h : Host) (before : List ServiceStep) (held rules : List String) (after : List ServiceStep),
    let r := s.steps (Runner.initial h) before
    let scheduled := s.changed held r
    let due := r.clock + ms
    let last := s.steps scheduled after
    (∀ time, .clock time ∉ before) → (s.readRules held r.state).2 = .ok rules →
    (∀ m ∈ after, m.isPassive = true) →
      (s.firings scheduled after = [] ∧ last.clock ≤ due ∧
          (last.isCalm (last.clock + 1) = true → last.clock < due)) ∨
        s.firings scheduled after = [(due, rules)] ∧ due ≤ last.clock

/-- What the service schedules is not fired before the next change is told of. -/
def NeverFires (s : Service) : Prop :=
  ∀ (h : Host) (before : List ServiceStep) (held rules : List String) (after : List ServiceStep),
    let r := s.steps (Runner.initial h) before
    (∀ time, .clock time ∉ before) → (s.readRules held r.state).2 = .ok rules →
    (∀ m ∈ after, m.isPassive = true) → s.firings (s.changed held r) after = []

/-- While the clock goes by itself, the scheduler looks like a line in time. -/
theorem exists_shows_steps {ms : List ServiceStep} (hclock : ∀ time, .clock time ∉ ms)
    (h : ∃ l, Runner.Shows True r l) : ∃ l, Runner.Shows True (s.steps r ms) l := by
  induction ms generalizing r with
  | nil => exact h
  | cons m rest ih =>
    refine ih (fun time hmem => hclock time (List.mem_cons_of_mem m hmem)) ?_
    cases m with
    | changed held => exact shows_changed s held h
    | cancel =>
      obtain ⟨l, hshows⟩ := h
      exact ⟨_, Runner.shows_cancel hshows⟩
    | tick t =>
      obtain ⟨l, hshows⟩ := h
      obtain ⟨l', -, -, hshows'⟩ := Runner.shows_tick s.action hshows t
      exact ⟨l', hshows'⟩
    | clock time => exact absurd List.mem_cons_self (hclock time)
    | host change =>
      obtain ⟨l, hshows⟩ := h
      exact ⟨_, Runner.shows_state hshows (change r.state)⟩

/-- What is fired by passive steps is fired since the last call. -/
theorem since_steps {before : Line (List String) Host Waiting Event}
    {fired : List (Nat × List String)}
    {after : List ServiceStep} (hpassive : ∀ m ∈ after, m.isPassive = true)
    (h : Runner.Since before fired r) :
    Runner.Since before (fired ++ s.firings r after) (s.steps r after) := by
  induction after generalizing r fired with
  | nil =>
    rw [firings, List.append_nil]
    exact h
  | cons m rest ih =>
    have hrest : ∀ m ∈ rest, m.isPassive = true :=
      fun m' hm' => hpassive m' (List.mem_cons_of_mem m hm')
    cases m with
    | tick t =>
      have hsince := ih hrest (h.tick s.action t)
      rw [List.append_assoc] at hsince
      exact hsince
    | host change => exact ih hrest (h.state (change r.state))
    | changed held => cases hpassive _ List.mem_cons_self
    | cancel => cases hpassive _ List.mem_cons_self
    | clock time => cases hpassive _ List.mem_cons_self

/-- Rules that can be read are scheduled. -/
theorem changed_of_ok {held rules : List String} (h : (s.readRules held r.state).2 = .ok rules) :
    s.changed held r =
      ({ r with state := r.state.passed .rules } : ServiceRunner).schedule s.quiet rules := by
  rw [changed_eq, h]

/-- What is fired since a change that the service was told of. -/
theorem since_changed {h : Host} {before after : List ServiceStep} {held rules : List String}
    (hquiet : ∀ ms, s.quiet = some ms → 0 ≤ ms) (hclock : ∀ time, .clock time ∉ before)
    (hread : (s.readRules held (s.steps (Runner.initial h) before).state).2 = .ok rules)
    (hpassive : ∀ m ∈ after, m.isPassive = true) :
    let r := s.steps (Runner.initial h) before
    ∃ l : Line (List String) Host Waiting Event, l.clock = r.clock ∧
      Runner.Since (l.schedule s.quiet rules) (s.firings (s.changed held r) after)
        (s.steps (s.changed held r) after) := by
  intro r
  obtain ⟨l, hshows⟩ := exists_shows_steps (s := s) hclock ⟨_, Runner.shows_initial True h⟩
  have hready := Runner.shows_state hshows (r.state.passed .rules)
  have hsince := Runner.since_self (Runner.shows_schedule hready s.quiet rules)
    (Line.isAhead_schedule _ hquiet rules)
  rw [changed_of_ok hread]
  exact ⟨_, hready.clock, since_steps hpassive hsince⟩

theorem firesAfter_of_quiet {ms : Nat} (hquiet : s.quiet = some ↑ms) : s.FiresAfter ms := by
  intro h before held rules after r scheduled due last hclock hread hpassive
  have hpos : ∀ ms', s.quiet = some ms' → 0 ≤ ms' := by
    intro ms' hms'
    rw [hquiet] at hms'
    cases hms'
    exact Int.natCast_nonneg ms
  obtain ⟨l, hclock, hsince⟩ := since_changed hpos hclock hread hpassive
  rw [hquiet] at hsince
  have hall := hsince.schedule
  rw [hclock] at hall
  exact hall

theorem neverFires_of_quiet (hquiet : s.quiet = none) : s.NeverFires := by
  intro h before held rules after r hclock hread hpassive
  have hpos : ∀ ms', s.quiet = some ms' → 0 ≤ ms' := by
    intro ms' hms'
    cases hquiet.symm.trans hms'
  obtain ⟨l, -, hsince⟩ := since_changed hpos hclock hread hpassive
  rw [hquiet] at hsince
  exact hsince.eq_nil fun _ _ => nofun

/-! ## §3. Settings files. -/

/-- A quiet period that can be a delay is one, to the millisecond. -/
theorem exists_firesAfter (h : s.settings.quietPeriod.IsUsable) :
    ∃ (q : ℚ) (ms : Nat), s.settings.quietPeriod.toRat? = some q ∧ 0 ≤ q ∧
      |(ms : ℚ) - 1000 * q| ≤ 1 / 2 ∧ s.FiresAfter ms := by
  obtain ⟨q, ms, hq, hpos, hnear, hms⟩ := h.exists_toMillis?
  refine ⟨q, ms, hq, hpos, hnear, firesAfter_of_quiet ?_⟩
  unfold quiet
  generalize s.settings.quietPeriod = x at hms ⊢
  cases x with
  | nan => cases hms
  | finite negative m e => exact hms
  | infinite negative => exact hms

theorem neverFires_of_infinite {negative : Bool}
    (h : s.settings.quietPeriod = .infinite negative) : s.NeverFires := by
  apply neverFires_of_quiet
  unfold quiet
  rw [h]
  rfl

end Service

namespace Settings

/-- **The quiet period of a settings file that has been read can be a delay just if it is a finite
number.**  Then the builds of the service are fired after so many milliseconds as are nearest to it.
Otherwise it is infinite, and they are never fired, or it is "not a number". -/
theorem quietPeriod_isUsable_iff {p : Path} {file : SettingsFile} {settings : Settings}
    (hread : read p file = .ok settings) :
    ∃ inner, HasSection p file inner ∧
      (settings.quietPeriod.IsUsable ↔ IsFiniteNumber (quietIn inner)) ∧
      (¬ settings.quietPeriod.IsUsable →
        settings.quietPeriod = .infinite false ∨ settings.quietPeriod = .nan) ∧
      ∀ s : Service, s.settings = settings →
        (settings.quietPeriod.IsUsable → ∃ (q : ℚ) (ms : Nat),
          settings.quietPeriod.toRat? = some q ∧ 0 ≤ q ∧ |(ms : ℚ) - 1000 * q| ≤ 1 / 2 ∧
            s.FiresAfter ms) ∧
        (settings.quietPeriod = .infinite false → s.NeverFires) := by
  obtain ⟨inner, hsection, hdescribes⟩ := read_eq_ok_iff.1 hread
  obtain ⟨husable, hnot⟩ := hdescribes.isUsable_iff
  refine ⟨inner, hsection, husable, hnot, ?_⟩
  rintro s rfl
  exact ⟨Service.exists_firesAfter, Service.neverFires_of_infinite⟩

/-- Two seconds stand for the number two. -/
theorem toRat?_two : (Binary64.ofInt 2).toRat? = some 2 := by
  have htwo : Binary64.ofInt 2 = .finite false (2 ^ 52) (-51) := by decide +kernel
  rw [htwo]
  norm_num [Binary64.toRat?]

/-- With a period of two seconds a service builds two thousand milliseconds after a change. -/
theorem firesAfter_two_seconds :
    ∃ settings, read ⟨["T", "settings.yaml"]⟩
        (.octets (Text.encodeUtf8 "ttlGrammar:\n  quietPeriod: 2\n")) = .ok settings ∧
      ∀ s : Service, s.settings = settings → s.FiresAfter 2000 := by
  have hread : read ⟨["T", "settings.yaml"]⟩
      (.octets (Text.encodeUtf8 "ttlGrammar:\n  quietPeriod: 2\n")) =
        .ok { quietPeriod := .ofInt 2 } := by
    decide +kernel
  refine ⟨_, hread, fun s hs => ?_⟩
  obtain ⟨inner, -, -, -, hservice⟩ := quietPeriod_isUsable_iff hread
  obtain ⟨q, ms, hq, -, hnear, hfires⟩ := (hservice s hs).1 ⟨2, toRat?_two, two_pos.le⟩
  cases toRat?_two.symm.trans hq
  -- No other whole number is so near to two thousand.
  have hms : ms = 2000 := by
    obtain ⟨hlow, hhigh⟩ := abs_le.1 hnear
    have hlow : (1999 : ℚ) < ms := by linarith
    have hhigh : (ms : ℚ) < 2001 := by linarith
    have hlow : 1999 < ms := by exact_mod_cast hlow
    have hhigh : ms < 2001 := by exact_mod_cast hhigh
    omega
  exact hms ▸ hfires

/-- An infinite period, and one that is "not a number", are read although neither can be a delay. -/
theorem unusable_periods_read :
    (read ⟨["T", "settings.yaml"]⟩
          (.octets (Text.encodeUtf8 "ttlGrammar:\n  quietPeriod: .inf\n")) =
        .ok { quietPeriod := .infinite false } ∧ ¬ (Binary64.infinite false).IsUsable) ∧
      read ⟨["T", "settings.yaml"]⟩
          (.octets (Text.encodeUtf8 "ttlGrammar:\n  quietPeriod: .nan\n")) =
        .ok { quietPeriod := .nan } ∧ ¬ Binary64.nan.IsUsable := by
  refine ⟨⟨by decide +kernel, ?_⟩, by decide +kernel, ?_⟩
  · rintro ⟨q, hq, -⟩
    cases hq
  · rintro ⟨q, hq, -⟩
    cases hq

end Settings

end QuasiGrammar
