import QuasiGrammar.Source.Scene

/-
  QuasiGrammar.Source.Juncture
  ────────────────────────────
  A source between two deeds.  An announcement calls one callback after the
  other, and these do things of their own in between, among them announcements;
  a `Course` leads through all junctures on the way, however deep they are
  nested.  A callback may fail, and then what was to be done is dropped, up to
  whoever catches the failure.
-/

namespace QuasiGrammar

/-- What happens from one juncture to the next. -/
inductive Happening where
  /-- A deed is done. -/
  | done (d : Deed)
  /-- Somebody asks for a deed, from outside of all announcements. -/
  | asked (d : Deed)
  /-- A callback fails. -/
  | failed
  deriving DecidableEq, Repr

/-- A juncture: what is to be done before anything else, and the scene. -/
structure Juncture (σ : Type) where
  agenda : List Deed
  scene : Scene σ

namespace Juncture

variable {σ : Type} {l : Listener σ}

/-- A source that nobody observes, and nothing to do. -/
def initial (rules : List String) (scripts : List (String × List (List Deed))) (service : σ) :
    Juncture σ :=
  ⟨[], Scene.initial rules scripts service⟩

/-- What comes next. -/
inductive Step (l : Listener σ) : Juncture σ → Happening → Juncture σ → Prop
  | deed (d : Deed) (rest : List Deed) (x : Scene σ) :
      Step l ⟨d :: rest, x⟩ (.done d) ⟨(x.perform l d).1 ++ rest, (x.perform l d).2⟩
  | ask (d : Deed) (x : Scene σ) (hask : d.isCall = false) : Step l ⟨[], x⟩ (.asked d) ⟨[d], x⟩
  | fail {agenda rest : List Deed} (x : Scene σ) (hrest : rest <:+ agenda) :
      Step l ⟨agenda, x⟩ .failed ⟨rest, x⟩

/-- What leads from one juncture to another, with all that happens on the way. -/
inductive Course (l : Listener σ) : Juncture σ → List Happening → Juncture σ → Prop
  | here (m : Juncture σ) : Course l m [] m
  | next {m m' m'' : Juncture σ} {past : List Happening} {what : Happening}
      (h : Course l m past m') (hstep : Step l m' what m'') : Course l m (past ++ [what]) m''

theorem Course.trans {m m' m'' : Juncture σ} {past more : List Happening} (h : Course l m past m')
    (hmore : Course l m' more m'') : Course l m (past ++ more) m'' := by
  induction hmore with
  | here =>
    rw [List.append_nil]
    exact h
  | next hbefore hstep ih =>
    rw [← List.append_assoc]
    exact ih.next hstep

theorem Step.course {m m' : Juncture σ} {what : Happening} (h : Step l m what m') :
    Course l m [what] m' :=
  (Course.here m).next h

/-- The callbacks that were called, in order. -/
def called (past : List Happening) : List Callback :=
  past.filterMap fun what =>
    match what with
    | .done (.invoke c) => some c
    | _ => none

/-- All that happened are deeds: nobody asked for more from outside, and no callback failed. -/
def OnlyDeeds (past : List Happening) : Prop := ∀ what ∈ past, ∃ d, what = .done d

theorem onlyDeeds_cons {what : Happening} {past : List Happening} :
    OnlyDeeds (what :: past) ↔ (∃ d, what = .done d) ∧ OnlyDeeds past := List.forall_mem_cons

theorem onlyDeeds_append {past more : List Happening} :
    OnlyDeeds (past ++ more) ↔ OnlyDeeds past ∧ OnlyDeeds more := List.forall_mem_append

/-- A deed is asked for, and all that follows from it is done, until nothing is left to do. -/
structure Runs (l : Listener σ) (d : Deed) (x : Scene σ) (past : List Happening) (y : Scene σ) :
    Prop where
  course : Course l ⟨[d], x⟩ past ⟨[], y⟩
  deeds : OnlyDeeds past

/-- An agenda is worked off deed by deed. -/
theorem course_work (agenda : List Deed) (x : Scene σ) :
    ∃ past, Course l ⟨agenda, x⟩ past ⟨[], Scene.work l agenda x⟩ ∧ OnlyDeeds past := by
  induction agenda, x using Scene.work.induct l with
  | case1 x =>
    rw [Scene.work]
    exact ⟨[], .here _, fun what hwhat => absurd hwhat List.not_mem_nil⟩
  | case2 x d rest ih =>
    obtain ⟨past, hpast, hdeeds⟩ := ih
    rw [Scene.work]
    exact ⟨_, (Step.deed d rest x).course.trans hpast,
      onlyDeeds_append.2 ⟨fun what hwhat => ⟨d, List.mem_singleton.1 hwhat⟩, hdeeds⟩⟩

/-- Whatever is asked for comes to an end. -/
theorem exists_runs (l : Listener σ) (d : Deed) (x : Scene σ) :
    ∃ past, Runs l d x past (Scene.act l d x) := by
  obtain ⟨past, hcourse, hdeeds⟩ := course_work [d] x
  exact ⟨past, hcourse, hdeeds⟩

end Juncture

end QuasiGrammar
