import QuasiGrammar.Publish.Course

/-
  QuasiGrammar.Publish.History
  ────────────────────────────
  What becomes of a store over a longer time: one task after another is carried
  out, on the host that the one before it has left.  A task either comes to its
  end, with a result or a failure, or it breaks off at some call, as if that
  call had raised what nobody handles.
-/

namespace QuasiGrammar

/-! ## §1. Errands. -/

/-- What a store is asked to do. -/
inductive StoreTask where
  | publish (text : String)
  /-- Removes the files of the store. -/
  | cleanup
  deriving DecidableEq, Repr

/-- The text that a task is to publish. -/
def StoreTask.text? : StoreTask → Option String
  | .publish text => some text
  | .cleanup => none

/-- A task that is carried out; with a limit, at most so many calls of it are answered. -/
structure Errand where
  task : StoreTask
  limit : Option Nat
  deriving DecidableEq, Repr

/-- What became of a task: the calls that were answered, the host afterwards and the result; there
is none if the task broke off. -/
structure Outcome where
  task : StoreTask
  steps : List Answered
  host : Host
  result : Option (Except Failure (Option String))

/-- The host after the last of some calls. -/
def lastHost (h : Host) (steps : List Answered) : Host := (steps.getLast?.map (·.host)).getD h

namespace Store

/-- The work of a task.  It gives the name of the file that is published. -/
def work (s : Store) : StoreTask → Work (Option String)
  | .publish text => do
      let name ← s.publish text
      pure (some name)
  | .cleanup => do
      let _ ← s.removeGenerated
      pure none

/-- Carries out a task, or as much of it as its limit leaves. -/
def carry (s : Store) (h : Host) (e : Errand) : Outcome :=
  let c := (s.work e.task).run.course h
  if e.limit.all (c.steps.length ≤ ·) then ⟨e.task, c.steps, c.host, some c.result⟩
  else
    let steps := c.steps.take (e.limit.getD 0)
    ⟨e.task, steps, lastHost h steps, none⟩

/-- Carries out one task after another. -/
def history (s : Store) (h : Host) : List Errand → List Outcome
  | [] => []
  | e :: rest => s.carry h e :: s.history (s.carry h e).host rest

end Store

/-! ## §2. Hosts along a history. -/

@[simp]
theorem lastHost_nil (h : Host) : lastHost h [] = h := rfl

@[simp]
theorem lastHost_cons (h : Host) (a : Answered) (steps : List Answered) :
    lastHost h (a :: steps) = lastHost a.host steps := by
  unfold lastHost
  rw [List.getLast?_cons]
  cases steps.getLast? with
  | none => rfl
  | some b => rfl

theorem lastHost_append (h : Host) (steps more : List Answered) :
    lastHost h (steps ++ more) = lastHost (lastHost h steps) more := by
  induction steps generalizing h with
  | nil => rfl
  | cons a rest ih =>
    rw [List.cons_append, lastHost_cons, lastHost_cons]
    exact ih _

theorem lastHost_mem (h : Host) (steps : List Answered) :
    lastHost h steps ∈ h :: steps.map (·.host) := by
  induction steps generalizing h with
  | nil => exact List.mem_cons_self
  | cons a rest ih =>
    rw [lastHost_cons]
    exact List.mem_cons_of_mem _ (ih a.host)

/-- What holds at first and after every call holds at the end. -/
theorem lastHost_induction {P : Host → Prop} {h : Host} {steps : List Answered} (hstart : P h)
    (hsteps : ∀ a ∈ steps, P a.host) : P (lastHost h steps) := by
  rcases List.mem_cons.1 (lastHost_mem h steps) with hlast | hlast
  · rw [hlast]
    exact hstart
  · obtain ⟨a, ha, heq⟩ := List.mem_map.1 hlast
    rw [← heq]
    exact hsteps a ha

theorem Program.host_course {α : Type} (p : Program α) (h : Host) :
    (p.course h).host = lastHost h (p.course h).steps := by
  induction p generalizing h with
  | done a => rfl
  | notify n next ih => exact ih h
  | call c next ih =>
    simp only [Program.course, lastHost_cons]
    exact ih _ _

namespace Store

variable {s : Store} {h h' : Host} {e : Errand} {steps : List Answered}
  {r : Except Failure (Option String)}

theorem goes_work_publish {text : String} :
    (s.work (.publish text)).Goes h steps h' r ↔
      ∃ q, (s.publish text).Goes h steps h' q ∧ r = q.map some :=
  Work.goes_bind_pure

theorem goes_work_cleanup :
    (s.work .cleanup).Goes h steps h' r ↔
      ∃ q, s.removeGenerated.Goes h steps h' q ∧ r = q.map fun _ => none :=
  Work.goes_bind_pure

@[simp]
theorem task_carry (s : Store) (h : Host) (e : Errand) : (s.carry h e).task = e.task := by
  unfold carry
  by_cases hall : e.limit.all (((s.work e.task).run.course h).steps.length ≤ ·) = true
  · rw [if_pos hall]
  · rw [if_neg hall]

@[simp]
theorem history_cons (s : Store) (h : Host) (e : Errand) (rest : List Errand) :
    s.history h (e :: rest) = s.carry h e :: s.history (s.carry h e).host rest := rfl

/-- A task comes to its end, or it breaks off before one of its calls. -/
theorem carry_cases (s : Store) (h : Host) (e : Errand) :
    (∃ r, (s.carry h e).result = some r ∧
        (s.work e.task).Goes h (s.carry h e).steps (s.carry h e).host r) ∨
      ∃ next rest h' r, (s.carry h e).result = none ∧
        (s.work e.task).Goes h ((s.carry h e).steps ++ next :: rest) h' r := by
  unfold carry
  by_cases hall : e.limit.all (((s.work e.task).run.course h).steps.length ≤ ·) = true
  · rw [if_pos hall]
    exact .inl ⟨_, rfl, Work.goes_course _ _⟩
  · rw [if_neg hall]
    right
    rw [Option.all_eq_true] at hall
    obtain ⟨n, hlimit, hlong⟩ : ∃ n, e.limit = some n ∧
        n < ((s.work e.task).run.course h).steps.length := by
      cases hl : e.limit with
      | none => exact absurd (by simp [hl]) hall
      | some n =>
        refine ⟨n, rfl, ?_⟩
        simpa [hl] using hall
    refine ⟨((s.work e.task).run.course h).steps[n],
      ((s.work e.task).run.course h).steps.drop (n + 1), ((s.work e.task).run.course h).host,
      ((s.work e.task).run.course h).result, rfl, ?_⟩
    simp only [hlimit, Option.getD_some]
    rw [← List.drop_eq_getElem_cons hlong, List.take_append_drop]
    exact Work.goes_course _ _

/-- The host after a task is the one after its last call. -/
theorem host_carry (s : Store) (h : Host) (e : Errand) :
    (s.carry h e).host = lastHost h (s.carry h e).steps := by
  unfold carry
  by_cases hall : e.limit.all (((s.work e.task).run.course h).steps.length ≤ ·) = true
  · rw [if_pos hall]
    exact Program.host_course _ _
  · rw [if_neg hall]

/-- The calls of a task are the first ones of the work. -/
theorem exists_goes_carry (s : Store) (h : Host) (e : Errand) :
    ∃ rest h' r, (s.work e.task).Goes h ((s.carry h e).steps ++ rest) h' r := by
  rcases s.carry_cases h e with ⟨r, -, hgo⟩ | ⟨next, rest, h', r, -, hgo⟩
  · exact ⟨[], _, r, by rwa [List.append_nil]⟩
  · exact ⟨next :: rest, h', r, hgo⟩

/-- What a store has done is the history of a shorter time and what came of its last task. -/
theorem history_concat (s : Store) (h : Host) (errands : List Errand) (e : Errand) :
    s.history h (errands ++ [e]) =
      s.history h errands ++
        [s.carry (lastHost h ((s.history h errands).flatMap (·.steps))) e] := by
  induction errands generalizing h with
  | nil => rfl
  | cons first rest ih =>
    rw [List.cons_append, history_cons, history_cons, ih, List.flatMap_cons, lastHost_append,
      ← host_carry]
    rfl

end Store

end QuasiGrammar
