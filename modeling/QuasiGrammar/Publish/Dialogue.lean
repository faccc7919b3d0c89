import QuasiGrammar.Publish.Course

/-
  QuasiGrammar.Publish.Dialogue
  ─────────────────────────────
  What passes between a program and whoever answers it: the calls, each with its
  answer, and the notices, in their order.

      Talks   the dialogues of a program if any call may be answered in any way
      talk    the one that it has with a host

  The dialogue with a host is one of those that are possible (`talks_talk`); it
  shows the events of the run and the calls of the course.
-/

namespace QuasiGrammar

/-! ## §1. Exchanges. -/

/-- A call with its answer, or a notice. -/
inductive Exchange where
  | asked (c : Call) (answer : Except Failure c.Answer)
  | told (n : Notice)

namespace Exchange

/-- The call of an exchange. -/
def call? : Exchange → Option Call
  | .asked c _ => some c
  | .told _ => none

/-- The notice of an exchange. -/
def notice? : Exchange → Option Notice
  | .asked _ _ => none
  | .told n => some n

/-- An exchange without the answer. -/
def event : Exchange → Event
  | .asked c _ => .called c
  | .told n => .noticed n

end Exchange

/-- The calls of a dialogue. -/
def callsIn (talk : List Exchange) : List Call := talk.filterMap Exchange.call?

/-- The notices of a dialogue. -/
def noticesIn (talk : List Exchange) : List Notice := talk.filterMap Exchange.notice?

section Parts

variable (talk more : List Exchange)

@[simp]
theorem callsIn_nil : callsIn [] = [] := rfl

@[simp]
theorem callsIn_asked (c : Call) (answer : Except Failure c.Answer) :
    callsIn (.asked c answer :: talk) = c :: callsIn talk := rfl

@[simp]
theorem callsIn_told (n : Notice) : callsIn (.told n :: talk) = callsIn talk := rfl

@[simp]
theorem callsIn_append : callsIn (talk ++ more) = callsIn talk ++ callsIn more :=
  List.filterMap_append

@[simp]
theorem noticesIn_nil : noticesIn [] = [] := rfl

@[simp]
theorem noticesIn_asked (c : Call) (answer : Except Failure c.Answer) :
    noticesIn (.asked c answer :: talk) = noticesIn talk := rfl

@[simp]
theorem noticesIn_told (n : Notice) : noticesIn (.told n :: talk) = n :: noticesIn talk := rfl

@[simp]
theorem noticesIn_append : noticesIn (talk ++ more) = noticesIn talk ++ noticesIn more :=
  List.filterMap_append

end Parts

/-- A call is in a dialogue with its answer. -/
theorem mem_callsIn {talk : List Exchange} {c : Call} :
    c ∈ callsIn talk ↔ ∃ answer, .asked c answer ∈ talk := by
  unfold callsIn
  rw [List.mem_filterMap]
  constructor
  · rintro ⟨x, hx, hc⟩
    cases x with
    | asked c' answer =>
      cases hc
      exact ⟨answer, hx⟩
    | told n => cases hc
  · rintro ⟨answer, h⟩
    exact ⟨_, h, rfl⟩

/-! ## §2. The dialogues of a program. -/

namespace Program

variable {α β : Type}

/-- Some answers lead the program to its end with a result, and this is the dialogue. -/
inductive Talks : Program α → List Exchange → α → Prop
  | done (a : α) : Talks (.done a) [] a
  | notify (n : Notice) {next : Program α} {talk : List Exchange} {a : α}
      (h : Talks next talk a) : Talks (.notify n next) (.told n :: talk) a
  | call (c : Call) {next : Except Failure c.Answer → Program α} (answer : Except Failure c.Answer)
      {talk : List Exchange} {a : α} (h : Talks (next answer) talk a) :
      Talks (.call c next) (.asked c answer :: talk) a

/-- The dialogue of a program in two parts is one of each. -/
theorem talks_bind {p : Program α} {f : α → Program β} {talk : List Exchange} {b : β}
    (h : (p.bind f).Talks talk b) :
    ∃ a before after, p.Talks before a ∧ (f a).Talks after b ∧ talk = before ++ after := by
  induction p generalizing talk with
  | done a => exact ⟨a, [], talk, .done a, h, rfl⟩
  | notify n next ih =>
    cases h with
    | notify _ h =>
      obtain ⟨a, before, after, hp, hf, rfl⟩ := ih h
      exact ⟨a, .told n :: before, after, .notify n hp, hf, rfl⟩
  | call c next ih =>
    cases h with
    | call _ answer h =>
      obtain ⟨a, before, after, hp, hf, rfl⟩ := ih answer h
      exact ⟨a, .asked c answer :: before, after, .call c answer hp, hf, rfl⟩

/-! ## §3. The dialogue with a host. -/

/-- The dialogue of a program with a host. -/
def talk : Program α → Host → List Exchange
  | .done _, _ => []
  | .notify n next, h => .told n :: next.talk h
  | .call c next, h =>
      let (h', r) := h.answer c
      .asked c r :: (next r).talk h'

/-- The dialogue with a host is one that the program can have. -/
theorem talks_talk (p : Program α) (h : Host) : p.Talks (p.talk h) (p.course h).result := by
  induction p generalizing h with
  | done a => exact .done a
  | notify n next ih => exact .notify n (ih h)
  | call c next ih => exact .call c _ (ih (h.answer c).2 (h.answer c).1)

/-- The dialogue shows what is seen of the run. -/
theorem map_event_talk (p : Program α) (h : Host) :
    (p.talk h).map Exchange.event = (p.run h).2.1 := by
  induction p generalizing h with
  | done a => rfl
  | notify n next ih => exact congrArg _ (ih h)
  | call c next ih => exact congrArg _ (ih (h.answer c).2 (h.answer c).1)

/-- The dialogue shows the calls of the course. -/
theorem callsIn_talk (p : Program α) (h : Host) :
    callsIn (p.talk h) = (p.course h).steps.map (·.call) := by
  induction p generalizing h with
  | done a => rfl
  | notify n next ih => exact ih h
  | call c next ih => exact congrArg _ (ih (h.answer c).2 (h.answer c).1)

end Program

/-! ## §4. The dialogues of work. -/

namespace Work

variable {α β : Type}

/-- Some answers lead the work to a result, and this is the dialogue. -/
def Talks (w : Work α) (talk : List Exchange) (r : Except Failure α) : Prop := w.run.Talks talk r

variable {talk : List Exchange}

theorem talks_pure {a : α} {r : Except Failure α} (h : Talks (pure a) talk r) :
    talk = [] ∧ r = .ok a := by
  cases h
  exact ⟨rfl, rfl⟩

theorem talks_throw {f : Failure} {r : Except Failure α} (h : Talks (throw f) talk r) :
    talk = [] ∧ r = .error f := by
  cases h
  exact ⟨rfl, rfl⟩

theorem talks_tell {n : Notice} {r : Except Failure Unit} (h : Talks (tell n) talk r) :
    talk = [.told n] ∧ r = .ok () := by
  cases h with
  | notify _ h =>
    cases h
    exact ⟨rfl, rfl⟩

theorem talks_ask {c : Call} {r : Except Failure c.Answer} (h : Talks (ask c) talk r) :
    talk = [.asked c r] := by
  cases h with
  | call _ answer h =>
    cases h
    rfl

/-- Work in two parts fails in the first part, or has a dialogue in both. -/
theorem talks_bind {x : Work α} {f : α → Work β} {r : Except Failure β}
    (h : Talks (x >>= f) talk r) :
    (∃ e, Talks x talk (.error e) ∧ r = .error e) ∨
      ∃ a before after, Talks x before (.ok a) ∧ Talks (f a) after r ∧ talk = before ++ after := by
  unfold Talks at h
  rw [run_bind] at h
  obtain ⟨q, before, after, hx, hf, rfl⟩ := Program.talks_bind h
  cases q with
  | ok a => exact .inr ⟨a, before, after, hx, hf, rfl⟩
  | error e =>
    cases hf
    exact .inl ⟨e, by rwa [List.append_nil], rfl⟩

/-- Guarded work succeeds by itself, or its failure is taken over by the guard. -/
theorem talks_tryCatch {x : Work α} {k : Failure → Work α} {r : Except Failure α}
    (h : Talks (tryCatch x k) talk r) :
    (∃ a, Talks x talk (.ok a) ∧ r = .ok a) ∨
      ∃ e before after, Talks x before (.error e) ∧ Talks (k e) after r ∧
        talk = before ++ after := by
  unfold Talks at h
  rw [run_tryCatch] at h
  obtain ⟨q, before, after, hx, hk, rfl⟩ := Program.talks_bind h
  cases q with
  | ok a =>
    cases hk
    exact .inl ⟨a, by rwa [List.append_nil], rfl⟩
  | error e => exact .inr ⟨e, before, after, hx, hk, rfl⟩

end Work

end QuasiGrammar
