import QuasiGrammar.Publish.Course

/-
  QuasiGrammar.Publish.Trace
  ──────────────────────────
  What can be seen of a program if any call may be answered in any way.  No host
  is needed for it: between two calls the host may have been changed by anybody,
  and the program cannot know.

      Leads     what is seen up to the end of a program
      Reaches   what is seen up to its end or to a call that takes time

  A program that waits for an answer has made its call as the last thing that
  was seen, and whatever follows then is a part of what it leads to.
-/

namespace QuasiGrammar

/-! ## §1. Notices and calls among events. -/

/-- The notice that an event shows. -/
def Event.notice? : Event → Option Notice
  | .called _ => none
  | .noticed n => some n

/-- The notices among events. -/
def noticesOf (events : List Event) : List Notice := events.filterMap Event.notice?

/-- The calls among events. -/
def callsOf (events : List Event) : List Call := events.filterMap Event.call?

@[simp]
theorem noticesOf_append (before after : List Event) :
    noticesOf (before ++ after) = noticesOf before ++ noticesOf after := List.filterMap_append

@[simp]
theorem callsOf_append (before after : List Event) :
    callsOf (before ++ after) = callsOf before ++ callsOf after := List.filterMap_append

@[simp]
theorem noticesOf_noticed (n : Notice) : noticesOf [.noticed n] = [n] := rfl

@[simp]
theorem callsOf_noticed (n : Notice) : callsOf [.noticed n] = [] := rfl

/-! ## §2. What a program leads to. -/

namespace Program

variable {α β : Type}

/-- Some answers lead the program to its end with a result, and these events are seen on the
way. -/
inductive Leads : Program α → List Event → α → Prop
  | done (a : α) : Leads (.done a) [] a
  | notify (n : Notice) {next : Program α} {events : List Event} {a : α}
      (h : Leads next events a) : Leads (.notify n next) (.noticed n :: events) a
  | call (c : Call) {next : Except Failure c.Answer → Program α} (answer : Except Failure c.Answer)
      {events : List Event} {a : α} (h : Leads (next answer) events a) :
      Leads (.call c next) (.called c :: events) a

/-- A program can come to its end: its calls may fail, if nothing else. -/
theorem exists_leads (p : Program α) : ∃ events a, p.Leads events a := by
  induction p with
  | done a => exact ⟨_, _, .done a⟩
  | notify n next ih =>
    obtain ⟨_, _, h⟩ := ih
    exact ⟨_, _, .notify n h⟩
  | call c next ih =>
    obtain ⟨_, _, h⟩ := ih (.error (.defect .nulInPath))
    exact ⟨_, _, .call c _ h⟩

/-- A program in two parts leads through both. -/
theorem leads_bind {p : Program α} {f : α → Program β} {events : List Event} {b : β} :
    (p.bind f).Leads events b ↔
      ∃ a before after, p.Leads before a ∧ (f a).Leads after b ∧ events = before ++ after := by
  constructor
  · intro h
    induction p generalizing events with
    | done a => exact ⟨a, [], events, .done a, h, rfl⟩
    | notify n next ih =>
      cases h with
      | notify _ h =>
        obtain ⟨a, before, after, hp, hf, rfl⟩ := ih h
        exact ⟨a, .noticed n :: before, after, .notify n hp, hf, rfl⟩
    | call c next ih =>
      cases h with
      | call _ answer h =>
        obtain ⟨a, before, after, hp, hf, rfl⟩ := ih answer h
        exact ⟨a, .called c :: before, after, .call c answer hp, hf, rfl⟩
  · rintro ⟨a, before, after, hp, hf, rfl⟩
    induction hp with
    | done a => exact hf
    | notify n _ ih => exact .notify n (ih hf)
    | call c answer _ ih => exact .call c answer (ih hf)

/-! ## §3. How far a program has come. -/

/-- The program has come so far, and these events have been seen.  If it waits for an answer then it
has made the call, and leads from there to whatever it is to lead to. -/
def Reaches (p : Program α) (events : List Event) : Progress α → Prop
  | .finished a => p.Leads events a
  | .waiting _ q =>
      (∃ before, events = before ++ [.called q.call]) ∧
        ∀ answer after a, (q.next answer).Leads after a → p.Leads (events ++ after) a

/-- More is seen if the program goes on with a part of itself. -/
theorem Reaches.extend {p q : Program α} {more : List Event} {progress : Progress α}
    (events : List Event) (hpart : ∀ after a, q.Leads after a → p.Leads (events ++ after) a)
    (h : q.Reaches more progress) : p.Reaches (events ++ more) progress := by
  cases progress with
  | finished a => exact hpart more a h
  | waiting ms w =>
    obtain ⟨⟨before, rfl⟩, hrest⟩ := h
    refine ⟨⟨events ++ before, by rw [List.append_assoc]⟩, fun answer after a hafter => ?_⟩
    rw [List.append_assoc]
    exact hpart _ a (hrest answer after a hafter)

/-- A program gets as far as its host takes it. -/
theorem reaches_proceed (p : Program α) (h : Host) :
    p.Reaches (p.proceed h).2.1 (p.proceed h).2.2 := by
  induction p generalizing h with
  | done a => exact .done a
  | notify n next ih =>
    exact Reaches.extend [.noticed n] (fun _ _ hnext => .notify n hnext) (ih h)
  | call c next ih =>
    rw [proceed]
    by_cases hnow : h.duration c.point = 0
    · rw [if_pos hnow]
      exact Reaches.extend [.called c] (fun _ _ hnext => .call c _ hnext)
        (ih (h.answer c).2 (h.answer c).1)
    · rw [if_neg hnow]
      exact ⟨⟨[], rfl⟩, fun answer _ _ hafter => .call c answer hafter⟩

/-- A program that waits goes on, on whatever host there is by then. -/
theorem Reaches.resume {p : Program α} {events : List Event} {ms : Nat} {q : Pending α}
    (h : p.Reaches events (.waiting ms q)) (host : Host) :
    p.Reaches (events ++ (q.resume host).2.1) (q.resume host).2.2 :=
  Reaches.extend events (h.2 (host.answer q.call).2)
    (reaches_proceed (q.next (host.answer q.call).2) (host.answer q.call).1)

end Program

/-! ## §4. What work leads to. -/

namespace Work

variable {α β : Type}

/-- Some answers lead the work to a result, and these events are seen on the way. -/
def Leads (w : Work α) (events : List Event) (r : Except Failure α) : Prop := w.run.Leads events r

variable {events : List Event}

theorem leads_pure {a : α} {r : Except Failure α} :
    Leads (pure a) events r ↔ events = [] ∧ r = .ok a := by
  constructor
  · intro h
    cases h
    exact ⟨rfl, rfl⟩
  · rintro ⟨rfl, rfl⟩
    exact .done _

theorem leads_throw {f : Failure} {r : Except Failure α} :
    Leads (throw f) events r ↔ events = [] ∧ r = .error f := by
  constructor
  · intro h
    cases h
    exact ⟨rfl, rfl⟩
  · rintro ⟨rfl, rfl⟩
    exact .done _

theorem leads_tell {n : Notice} {r : Except Failure Unit} :
    Leads (tell n) events r ↔ events = [.noticed n] ∧ r = .ok () := by
  constructor
  · intro h
    cases h with
    | notify _ h =>
      cases h
      exact ⟨rfl, rfl⟩
  · rintro ⟨rfl, rfl⟩
    exact .notify n (.done _)

/-- A call may be answered in any way. -/
theorem leads_ask {c : Call} {r : Except Failure c.Answer} :
    Leads (ask c) events r ↔ events = [.called c] := by
  constructor
  · intro h
    cases h with
    | call _ answer h =>
      cases h
      rfl
  · rintro rfl
    exact .call c r (.done r)

/-- Work in two parts fails in the first part, or leads through both. -/
theorem leads_bind {x : Work α} {f : α → Work β} {r : Except Failure β} :
    Leads (x >>= f) events r ↔
      (∃ e, Leads x events (.error e) ∧ r = .error e) ∨
        ∃ a before after, Leads x before (.ok a) ∧ Leads (f a) after r ∧ events = before ++ after := by
  unfold Leads
  rw [run_bind, Program.leads_bind]
  constructor
  · rintro ⟨q, before, after, hx, hf, rfl⟩
    cases q with
    | ok a => exact .inr ⟨a, before, after, hx, hf, rfl⟩
    | error e =>
      cases hf
      exact .inl ⟨e, by rwa [List.append_nil], rfl⟩
  · rintro (⟨e, hx, rfl⟩ | ⟨a, before, after, hx, hf, rfl⟩)
    · exact ⟨.error e, events, [], hx, .done _, (List.append_nil _).symm⟩
    · exact ⟨.ok a, before, after, hx, hf, rfl⟩

/-- Guarded work succeeds by itself, or its failure is taken over by the guard. -/
theorem leads_tryCatch {x : Work α} {k : Failure → Work α} {r : Except Failure α} :
    Leads (tryCatch x k) events r ↔
      (∃ a, Leads x events (.ok a) ∧ r = .ok a) ∨
        ∃ e before after, Leads x before (.error e) ∧ Leads (k e) after r ∧
          events = before ++ after := by
  unfold Leads
  rw [run_tryCatch, Program.leads_bind]
  constructor
  · rintro ⟨q, before, after, hx, hk, rfl⟩
    cases q with
    | ok a =>
      cases hk
      exact .inl ⟨a, by rwa [List.append_nil], rfl⟩
    | error e => exact .inr ⟨e, before, after, hx, hk, rfl⟩
  · rintro (⟨a, hx, rfl⟩ | ⟨e, before, after, hx, hk, rfl⟩)
    · exact ⟨.ok a, events, [], hx, .done _, (List.append_nil _).symm⟩
    · exact ⟨.error e, before, after, hx, hk, rfl⟩

end Work

end QuasiGrammar
