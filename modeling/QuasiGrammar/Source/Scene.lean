import QuasiGrammar.Source.Observers
import QuasiGrammar.Total

/-
  QuasiGrammar.Source.Scene
  ─────────────────────────
  A source of rules with its observers.  Setting the rules, or a change that is
  announced, calls every callback that is registered at that moment, in order;
  the list is copied first, so what callbacks do to it counts only for later
  announcements.  A callback may do anything with the source itself, and then
  that is done before the next callback is called.

  What is to be done is an agenda, worked off from its head: announcing puts
  the calls in front, a call puts the callback's own deeds in front.  The host's
  callbacks follow scripts, which come to an end, and so does every agenda.

  One observer is the service that keeps the grammar; what it does when it is
  called is given as a `Listener`.
-/

namespace QuasiGrammar

/-! ## §1. Deeds. -/

/-- Who can be called. -/
inductive Callback where
  /-- A callback of the host, by its name. -/
  | host (name : String)
  /-- The service. -/
  | service
  deriving DecidableEq, Repr

/-- What can be done with a source. -/
inductive Deed where
  | observe (name : String)
  | dispose (handle : Nat)
  | set (rules : List String)
  | announce
  | invoke (c : Callback)
  /-- The service begins to observe the source. -/
  | start
  /-- The service stops observing the source. -/
  | stop
  deriving DecidableEq, Repr

/-- Whether a deed is a call.  Only announcements make calls; nobody else asks for one. -/
def Deed.isCall : Deed → Bool
  | .invoke _ => true
  | _ => false

/-- What the service does when it is called, and when it is stopped. -/
structure Listener (σ : Type) where
  changed : List String → σ → σ
  stopped : σ → σ

/-- The listener that does nothing. -/
def Listener.silent {σ : Type} : Listener σ := ⟨fun _ s => s, id⟩

/-- A source of rules: its rules, its observers, what the host's callbacks will do at their next
calls, the calls that were made with the rules that were read in them, the handle of the service
while it observes, and the state of the service. -/
structure Scene (σ : Type) where
  rules : List String
  observers : Observers Callback
  scripts : List (String × List (List Deed))
  calls : List (String × List String)
  subscription : Option Nat
  service : σ

namespace Scene

variable {σ : Type}

/-- A source that nobody observes. -/
def initial (rules : List String) (scripts : List (String × List (List Deed))) (service : σ) :
    Scene σ :=
  ⟨rules, .none, scripts, [], none, service⟩

/-! ## §2. One deed. -/

/-- The first unused script of a callback, and the scripts without it. -/
def takeScript (name : String) :
    List (String × List (List Deed)) → Option (List Deed × List (String × List (List Deed)))
  | [] => none
  | (key, entries) :: rest =>
      match entries with
      | entry :: more =>
          if key = name then some (entry, (key, more) :: rest)
          else (takeScript name rest).map fun p => (p.1, (key, entries) :: p.2)
      | [] => (takeScript name rest).map fun p => (p.1, (key, entries) :: p.2)

/-- The number of unused scripts. -/
def scriptCount (scripts : List (String × List (List Deed))) : Nat :=
  total (·.2.length) scripts

/-- The service is called. -/
def callService (l : Listener σ) (s : Scene σ) : Scene σ :=
  { s with service := l.changed s.rules s.service }

/-- Does one deed; what is to be done before anything else comes with the scene. -/
def perform (l : Listener σ) (d : Deed) (s : Scene σ) : List Deed × Scene σ :=
  match d with
  | .observe name => ([], { s with observers := s.observers.observe (.host name) })
  | .dispose i => ([], { s with observers := s.observers.dispose i })
  -- The list of callbacks is copied before the first of them is called.
  | .set rules => (s.observers.listed.map .invoke, { s with rules := rules })
  | .announce => (s.observers.listed.map .invoke, s)
  | .invoke .service => ([], callService l s)
  | .invoke (.host name) =>
      -- The callback reads the rules as they are when it is called.
      let s := { s with calls := s.calls ++ [(name, s.rules)] }
      match takeScript name s.scripts with
      | none => ([], s)
      | some (deeds, scripts) => (deeds, { s with scripts := scripts })
  | .start =>
      match s.subscription with
      | some _ => ([], s)
      | none =>
          -- It looks at the rules at once, as if they had just changed.
          ([], callService l
            { s with
              observers := s.observers.observe .service
              subscription := some s.observers.nextHandle })
  | .stop =>
      match s.subscription with
      | some i =>
          ([], { s with
            observers := s.observers.dispose i
            subscription := none
            service := l.stopped s.service })
      | none => ([], { s with service := l.stopped s.service })

/-! ## §3. Agendas. -/

/-- Whether a deed makes announcements. -/
def Deed.announces : Deed → Bool
  | .set _ | .announce => true
  | _ => false

/-- The number of announcements in an agenda. -/
def announcements (agenda : List Deed) : Nat := agenda.countP (Deed.announces ·)

theorem scriptCount_takeScript {name : String} {deeds : List Deed}
    {scripts rest : List (String × List (List Deed))}
    (h : takeScript name scripts = some (deeds, rest)) :
    scriptCount scripts = scriptCount rest + 1 := by
  -- One script of one entry is taken, and the other entries stay as they are.
  induction scripts generalizing rest with
  | nil => simp [takeScript] at h
  | cons s more ih =>
    obtain ⟨key, entries⟩ := s
    cases entries with
    | nil =>
      simp only [takeScript, Option.map_eq_some_iff] at h
      obtain ⟨p, hp, he⟩ := h
      cases he
      have := ih hp
      simp [scriptCount] at *
      omega
    | cons entry others =>
      simp only [takeScript] at h
      split at h
      · cases h
        simp [scriptCount]
        omega
      · simp only [Option.map_eq_some_iff] at h
        obtain ⟨p, hp, he⟩ := h
        cases he
        have := ih hp
        simp [scriptCount] at *
        omega

/-- A deed uses up a script, or an announcement, or adds nothing to the agenda. -/
theorem perform_measure (l : Listener σ) (d : Deed) (s : Scene σ) :
    scriptCount (perform l d s).2.scripts < scriptCount s.scripts ∨
      scriptCount (perform l d s).2.scripts = scriptCount s.scripts ∧
        (announcements (perform l d s).1 < announcements [d] ∨
          announcements [d] = 0 ∧ (perform l d s).1 = []) := by
  cases d with
  | observe name => exact .inr ⟨rfl, .inr ⟨rfl, rfl⟩⟩
  | dispose i => exact .inr ⟨rfl, .inr ⟨rfl, rfl⟩⟩
  | set rules =>
    exact .inr ⟨rfl, .inl (by simp [perform, announcements, Deed.announces])⟩
  | announce =>
    exact .inr ⟨rfl, .inl (by simp [perform, announcements, Deed.announces])⟩
  | invoke c =>
    cases c with
    | service => exact .inr ⟨rfl, .inr ⟨rfl, rfl⟩⟩
    | host name =>
      simp only [perform]
      cases h : takeScript name s.scripts with
      | none => exact .inr ⟨rfl, .inr ⟨rfl, rfl⟩⟩
      | some p =>
        have := scriptCount_takeScript h
        exact .inl (by simp only; omega)
  | start =>
    simp only [perform]
    cases s.subscription <;> exact .inr ⟨rfl, .inr ⟨rfl, rfl⟩⟩
  | stop =>
    simp only [perform]
    cases s.subscription <;> exact .inr ⟨rfl, .inr ⟨rfl, rfl⟩⟩

theorem announcements_append (a b : List Deed) :
    announcements (a ++ b) = announcements a + announcements b := by
  simp [announcements]

/-- Works off an agenda. -/
def work (l : Listener σ) (agenda : List Deed) (s : Scene σ) : Scene σ :=
  match agenda with
  | [] => s
  | d :: rest => work l ((perform l d s).1 ++ rest) (perform l d s).2
termination_by (scriptCount s.scripts, announcements agenda, agenda.length)
decreasing_by
  have hd : announcements (d :: rest) = announcements [d] + announcements rest :=
    announcements_append [d] rest
  -- Scripts count most, then announcements, then deeds.
  rcases perform_measure l d s with h | ⟨h, ha | ⟨ha, hn⟩⟩
  · exact Prod.Lex.left _ _ h
  · rw [h, announcements_append, hd]
    exact Prod.Lex.right _ (Prod.Lex.left _ _ (by omega))
  · rw [h, hn, hd, ha]
    simp only [List.nil_append, Nat.zero_add]
    exact Prod.Lex.right _ (Prod.Lex.right _ (by simp))

/-- Does one thing, with all that follows from it. -/
def act (l : Listener σ) (d : Deed) (s : Scene σ) : Scene σ := work l [d] s

/-! ## §4. What becomes of the service. -/

/-- A deed calls the service, or stops it, or leaves it alone. -/
theorem service_perform (l : Listener σ) {P : σ → Prop}
    (hchanged : ∀ rules state, P state → P (l.changed rules state))
    (hstopped : ∀ state, P state → P (l.stopped state)) (d : Deed) {s : Scene σ}
    (h : P s.service) : P (perform l d s).2.service := by
  cases d with
  | observe name => exact h
  | dispose i => exact h
  | set rules => exact h
  | announce => exact h
  | invoke c =>
    cases c with
    | service => exact hchanged _ _ h
    | host name =>
      simp only [perform]
      cases takeScript name s.scripts with
      | none => exact h
      | some p => exact h
  | start =>
    simp only [perform]
    cases s.subscription with
    | none => exact hchanged _ _ h
    | some i => exact h
  | stop =>
    simp only [perform]
    cases s.subscription with
    | none => exact hstopped _ h
    | some i => exact hstopped _ h

theorem service_work (l : Listener σ) {P : σ → Prop}
    (hchanged : ∀ rules state, P state → P (l.changed rules state))
    (hstopped : ∀ state, P state → P (l.stopped state)) (agenda : List Deed) (s : Scene σ)
    (h : P s.service) : P (work l agenda s).service := by
  induction agenda, s using work.induct l with
  | case1 s =>
    rw [work]
    exact h
  | case2 s d rest ih =>
    rw [work]
    exact ih (service_perform l hchanged hstopped d h)

/-- Whatever is done, all that happens to the service is that it is called and stopped. -/
theorem service_act (l : Listener σ) {P : σ → Prop}
    (hchanged : ∀ rules state, P state → P (l.changed rules state))
    (hstopped : ∀ state, P state → P (l.stopped state)) (d : Deed) (s : Scene σ)
    (h : P s.service) : P (act l d s).service :=
  service_work l hchanged hstopped [d] s h

/-- A deed after which nothing else is to be done is over at once. -/
theorem act_of_nil {l : Listener σ} {d : Deed} {s : Scene σ} (h : (perform l d s).1 = []) :
    act l d s = (perform l d s).2 := by
  rw [act, work, h, List.nil_append, work]

end Scene

end QuasiGrammar
