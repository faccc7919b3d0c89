import QuasiGrammar.Proofs.Source.Silence

/-
  QuasiGrammar.Proofs.Source.Handles
  ──────────────────────────────────
  **A handle speaks for one place in the list of callbacks, and for no other.**

  The list does not know the handles.  What is taken off it when a handle is
  disposed of is the first entry of the callback, which may have been put there
  for another handle.  But the numbers agree at every juncture, at any depth of
  announcements: each callback is listed as often as it has live handles.  So a
  handle that is dead has nothing left to take away, and one that is live is
  called for in every announcement to come.

      balanced_course                  lists and handles agree
      live_step                        what a live handle dies of
      outstanding_le_course            calls that are outstanding are made, unless a callback fails
      listed_as_often_as_live          the list, and what it means for handles
-/

namespace QuasiGrammar

/-! ## §1. One handle among others. -/

namespace Observers

variable {κ : Type} {o : Observers κ} {i j : Nat} {k : κ} {handle : Handle κ}

theorem handles_observe (h : o.handles[j]? = some handle) (k : κ) :
    (o.observe k).handles[j]? = some handle := by
  show (o.handles ++ [_])[j]? = some handle
  rw [List.getElem?_append_left (List.getElem?_eq_some_iff.1 h).1]
  exact h

variable [DecidableEq κ]

/-- Disposing of a handle leaves all others as they are. -/
theorem handles_dispose_of_ne (o : Observers κ) (h : i ≠ j) :
    (o.dispose i).handles[j]? = o.handles[j]? := by
  by_cases hlive : ∃ k, o.handles[i]? = some ⟨k, false⟩
  · obtain ⟨k, hk⟩ := hlive
    rw [dispose_of_live hk]
    exact List.getElem?_set_ne h
  · rw [dispose_of_not_live fun k hk => hlive ⟨k, hk⟩]

theorem dispose_of_dead (h : o.handles[i]? = some ⟨k, true⟩) : o.dispose i = o := by
  apply dispose_of_not_live
  intro k' hk'
  rw [h] at hk'
  cases hk'

end Observers

/-! ## §2. One deed. -/

namespace Scene

variable {σ : Type} {x : Scene σ} {c : Callback}

/-- An announcement calls each callback as often as it is listed. -/
theorem count_invoke_announce (l : Listener σ) {d : Deed} (hd : Deed.announces d = true)
    (x : Scene σ) (c : Callback) :
    (perform l d x).1.count (.invoke c) = x.observers.listed.count c := by
  have hcalls : (x.observers.listed.map Deed.invoke).count (.invoke c) =
      x.observers.listed.count c := by
    induction x.observers.listed with
    | nil => rfl
    | cons c' rest ih => simp [List.count_cons, ih]
  cases d with
  | set rules => exact hcalls
  | announce => exact hcalls
  | _ => cases hd

/-- A live handle dies of nothing but being disposed of; the service disposes of its own when it is
stopped. -/
theorem live_perform (l : Listener σ) {j : Nat} (hlive : x.observers.handles[j]? = some ⟨c, false⟩)
    (d : Deed) :
    (perform l d x).2.observers.handles[j]? = some ⟨c, false⟩ ∨
      d = .dispose j ∨ d = .stop ∧ x.subscription = some j := by
  have hother : ∀ {i}, i ≠ j → (x.observers.dispose i).handles[j]? = some ⟨c, false⟩ := by
    intro i hij
    rw [Observers.handles_dispose_of_ne _ hij]
    exact hlive
  cases d with
  | observe name => exact .inl (Observers.handles_observe hlive _)
  | dispose i =>
    by_cases hij : i = j
    · exact .inr (.inl (congrArg _ hij))
    · exact .inl (hother hij)
  | set rules => exact .inl hlive
  | announce => exact .inl hlive
  | invoke c' =>
    left
    cases c' with
    | service => exact hlive
    | host name =>
      simp only [perform]
      cases takeScript name x.scripts <;> exact hlive
  | start =>
    left
    simp only [perform]
    cases x.subscription with
    | some i => exact hlive
    | none => exact Observers.handles_observe hlive _
  | stop =>
    simp only [perform]
    cases hsub : x.subscription with
    | none => exact .inl hlive
    | some i =>
      by_cases hij : i = j
      · right
        right
        exact ⟨trivial, congrArg some hij⟩
      · exact .inl (hother hij)

end Scene

/-! ## §3. From one juncture to another. -/

namespace Juncture

open Scene

variable {σ : Type} {l : Listener σ} {m m' : Juncture σ} {past : List Happening} {c : Callback}

/-- Lists and handles agree at every juncture, if they agree at one. -/
theorem balanced_course (h : m.scene.observers.IsBalanced) (hcourse : Course l m past m') :
    m'.scene.observers.IsBalanced := by
  induction hcourse with
  | here => exact h
  | next _ hstep ih =>
    exact observers_step (fun _ k ho => ho.observe k) (fun _ i ho => ho.dispose i) hstep ih

theorem live_step {what : Happening} {j : Nat}
    (hlive : m.scene.observers.handles[j]? = some ⟨c, false⟩) (hstep : Step l m what m') :
    m'.scene.observers.handles[j]? = some ⟨c, false⟩ ∨
      what = .done (.dispose j) ∨ what = .done .stop ∧ m.scene.subscription = some j := by
  cases hstep with
  | deed d rest x =>
    rcases live_perform l hlive d with hkeeps | hdispose | ⟨hstop, hsub⟩
    · exact .inl hkeeps
    · exact .inr (.inl (congrArg _ hdispose))
    · exact .inr (.inr ⟨congrArg _ hstop, hsub⟩)
  | ask d x hask => exact .inl hlive
  | fail x hrest => exact .inl hlive

/-- A call that is outstanding is made, or is outstanding still, unless a callback fails. -/
theorem outstanding_le_step {what : Happening} (hstep : Step l m what m') (hfine : what ≠ .failed) :
    outstanding c m ≤ (if what = .done (.invoke c) then 1 else 0) + outstanding c m' := by
  cases hstep with
  | deed d rest x =>
    show (d :: rest).count (.invoke c) ≤ _ + ((x.perform l d).1 ++ rest).count (.invoke c)
    rw [List.count_append, List.count_cons]
    simp only [Happening.done.injEq, beq_iff_eq]
    omega
  | ask d x hask => exact Nat.zero_le _
  | fail x hrest => exact absurd rfl hfine

theorem outstanding_le_course (c : Callback) (hcourse : Course l m past m')
    (hfine : .failed ∉ past) : outstanding c m ≤ calls c past + outstanding c m' := by
  induction hcourse with
  | here => exact Nat.le_add_left _ _
  | next _ hstep ih =>
    rw [List.mem_append, List.mem_singleton, not_or] at hfine
    have hbefore := ih hfine.1
    have hlast := outstanding_le_step (c := c) hstep (Ne.symm hfine.2)
    rw [calls_concat]
    omega

section

variable {rules : List String} {scripts : List (String × List (List Deed))} {service : σ}

/-- **The list of callbacks is the live handles**, at every juncture that a source can come to,
whatever its callbacks do with it when they are called, and whether they fail or not.

1. Each callback is listed as often as it has handles that have not been disposed of.
2. Once a handle has been disposed of, disposing of it again changes nothing, however much has
   happened in between.
3. A live handle stays so, unless it is disposed of itself; the service disposes of its own when it
   is stopped.
4. An announcement calls a callback that has a live handle, as often as it has live handles then,
   whichever of its other handles are dead.  These calls are made in the end, and those that were
   outstanding too, unless a callback fails before. -/
theorem listed_as_often_as_live (hreach : Course l (initial rules scripts service) past m) :
    (∀ c, m.scene.observers.listed.count c = m.scene.observers.handles.count ⟨c, false⟩) ∧
      (∀ i agenda later m', i < m.scene.observers.nextHandle →
        Course l ⟨agenda, (m.scene.perform l (.dispose i)).2⟩ later m' →
          m'.scene.perform l (.dispose i) = ([], m'.scene)) ∧
      (∀ (j : Nat) (c : Callback) what m', m.scene.observers.handles[j]? = some ⟨c, false⟩ →
        Step l m what m' →
          m'.scene.observers.handles[j]? = some ⟨c, false⟩ ∨
            what = .done (.dispose j) ∨ what = .done .stop ∧ m.scene.subscription = some j) ∧
      ∀ (j : Nat) (c : Callback) d rest, m.scene.observers.handles[j]? = some ⟨c, false⟩ →
        Deed.announces d = true →
          1 ≤ m.scene.observers.handles.count ⟨c, false⟩ ∧
            (m.scene.perform l d).1.count (.invoke c) =
              m.scene.observers.handles.count ⟨c, false⟩ ∧
            ∀ later m',
              Course l ⟨(m.scene.perform l d).1 ++ rest, (m.scene.perform l d).2⟩ later m' →
                .failed ∉ later →
                  m.scene.observers.handles.count ⟨c, false⟩ + rest.count (.invoke c) ≤
                    calls c later + outstanding c m' := by
  have hbalanced : m.scene.observers.IsBalanced :=
    balanced_course Observers.isBalanced_none hreach
  refine ⟨hbalanced, ?_, ?_, ?_⟩
  · intro i agenda later m' hi hlater
    obtain ⟨⟨c, b⟩, hhandle⟩ : ∃ handle, m.scene.observers.handles[i]? = some handle :=
      ⟨_, List.getElem?_eq_getElem hi⟩
    have hdead : (m.scene.perform l (.dispose i)).2.observers.handles[i]? = some ⟨c, true⟩ :=
      Observers.disposed_self hhandle
    have hstill := dead_course hdead hlater
    show ([], { m'.scene with observers := m'.scene.observers.dispose i }) = _
    rw [Observers.dispose_of_dead hstill]
  · intro j c what m' hlive hstep
    exact live_step hlive hstep
  · intro j c d rest hlive hd
    have hcount := count_invoke_announce l hd m.scene c
    rw [hbalanced c] at hcount
    refine ⟨List.count_pos_iff.2 (List.mem_of_getElem? hlive), hcount, ?_⟩
    intro later m' hlater hfine
    -- What was outstanding when the announcement had begun is made by now, or outstanding still.
    have hle := outstanding_le_course c hlater hfine
    unfold outstanding at hle
    rw [List.count_append, hcount] at hle
    exact hle

end

/-- The observer that disposes of the second handle when it is called, and has both of them. -/
def halved : Scene Unit :=
  withRival [.observe "A", .observe "A", .announce, .invoke (.host "A"), .dispose 1]

/-- It observes the source twice, is called for its first handle, and disposes of the second one in
that call; the call for this is outstanding. -/
theorem course_halved :
    ∃ past, Course .silent (initial [] rival ()) past ⟨[.invoke (.host "A")], halved⟩ := by
  have hfirst : Course .silent (initial [] rival ()) [.asked (.observe "A"), .done (.observe "A")]
      ⟨[], withRival [.observe "A"]⟩ :=
    ((Course.here _).next (.ask (.observe "A") _ rfl)).next (.deed (.observe "A") [] _)
  have hsecond := (hfirst.next (.ask (.observe "A") _ rfl)).next (.deed (.observe "A") [] _)
  have hannounced := (hsecond.next (.ask .announce _ rfl)).next (.deed .announce [] _)
  have hcalled := hannounced.next (.deed (.invoke (.host "A")) [.invoke (.host "A")] _)
  exact ⟨_, hcalled.next (.deed (.dispose 1) [.invoke (.host "A")] _)⟩

/-- The callback is listed once by then, disposing again changes nothing, and another announcement
calls it for its first handle. -/
theorem listed_when_halved :
    halved.observers.listed.count (.host "A") = halved.observers.handles.count ⟨.host "A", false⟩ ∧
      halved.perform .silent (.dispose 1) = ([], halved) ∧
      (halved.perform .silent .announce).1.count (.invoke (.host "A")) = 1 := by
  obtain ⟨past, hcourse⟩ := course_halved
  obtain ⟨hcount, hagain, -, hannounce⟩ := listed_as_often_as_live hcourse
  refine ⟨hcount _, ?_, ?_⟩
  · exact hagain 1 [] [] ⟨[], halved⟩ (by decide) (.here _)
  · exact (hannounce 0 (.host "A") .announce [] rfl rfl).2.1

end Juncture

end QuasiGrammar
