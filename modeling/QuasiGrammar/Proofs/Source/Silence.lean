import QuasiGrammar.Proofs.Source.Scripts
import QuasiGrammar.Source.Juncture

/-
  QuasiGrammar.Proofs.Source.Silence
  ──────────────────────────────────
  **How often a callback is called once its handle has been disposed of.**

  The list of callbacks holds each of them as often as it has live handles
  (`Observers.IsBalanced`), so that a callback with one handle is not listed any
  more once this is disposed of, and no announcement that begins later calls it.
  But an announcement has copied the list when it began, and makes all calls of
  its copy, whatever becomes of the list.  From the moment on at which the handle
  is disposed of, the calls of the callback are those that were outstanding
  then: none of them is added (`count_course`), and unless a callback fails none
  is dropped.
-/

namespace QuasiGrammar

/-! ## §1. Lists and handles. -/

namespace Observers

variable {κ : Type} [DecidableEq κ] {o : Observers κ}

/-- Each callback is listed as often as it has live handles. -/
def IsBalanced (o : Observers κ) : Prop :=
  ∀ k, o.listed.count k = o.handles.count (⟨k, false⟩ : Handle κ)

/-- How often a callback has been registered. -/
def registrations (o : Observers κ) (k : κ) : Nat := (o.handles.map (·.callback)).count k

theorem isBalanced_none : (none : Observers κ).IsBalanced := fun _ => rfl

theorem IsBalanced.observe (h : o.IsBalanced) (k : κ) : (o.observe k).IsBalanced := by
  intro k'
  show (o.listed ++ [k]).count k' = (o.handles ++ [(⟨k, false⟩ : Handle κ)]).count ⟨k', false⟩
  rw [List.count_append, List.count_append, h k']
  by_cases hk : k = k'
  · simp [hk]
  · simp [hk]

/-- The entry that is taken off the list is one of the callback that loses a live handle. -/
theorem IsBalanced.dispose (h : o.IsBalanced) (i : Nat) : (o.dispose i).IsBalanced := by
  by_cases hlive : ∃ k, o.handles[i]? = some ⟨k, false⟩
  · obtain ⟨k, hk⟩ := hlive
    obtain ⟨hi, hget⟩ := List.getElem?_eq_some_iff.1 hk
    rw [dispose_of_live hk]
    intro k'
    show (o.listed.erase k).count k' = (o.handles.set i ⟨k, true⟩).count (⟨k', false⟩ : Handle κ)
    rw [List.count_erase, List.count_set hi, h k', hget]
    by_cases hsame : k = k'
    · simp [hsame]
    · simp [hsame]
  · rw [dispose_of_not_live fun k hk => hlive ⟨k, hk⟩]
    exact h

theorem registrations_observe (o : Observers κ) (k k' : κ) :
    o.registrations k' ≤ (o.observe k).registrations k' := by
  show _ ≤ ((o.handles ++ [(⟨k, false⟩ : Handle κ)]).map (·.callback)).count k'
  rw [List.map_append]
  exact (List.sublist_append_left _ _).count_le k'

/-- Handles are for ever for the callback that they were given for. -/
theorem callback_dispose (o : Observers κ) (i : Nat) :
    (o.dispose i).handles.map (·.callback) = o.handles.map (·.callback) := by
  by_cases hlive : ∃ k, o.handles[i]? = some ⟨k, false⟩
  · obtain ⟨k, hk⟩ := hlive
    obtain ⟨hi, hget⟩ := List.getElem?_eq_some_iff.1 hk
    have hlt : i < (o.handles.map (·.callback)).length := by simpa using hi
    have hsame : (o.handles.map (·.callback))[i] = k := by simp [hget]
    rw [dispose_of_live hk]
    show (o.handles.set i ⟨k, true⟩).map (·.callback) = _
    rw [List.map_set]
    show (o.handles.map (·.callback)).set i k = _
    rw [← hsame, List.set_getElem_self]
  · rw [dispose_of_not_live fun k hk => hlive ⟨k, hk⟩]

theorem registrations_dispose (o : Observers κ) (i : Nat) (k : κ) :
    (o.dispose i).registrations k = o.registrations k := by
  unfold registrations
  rw [callback_dispose]

/-- A handle that was disposed of stays so. -/
theorem disposed_dispose {i : Nat} {k : κ} (h : o.handles[i]? = some ⟨k, true⟩) (j : Nat) :
    (o.dispose j).handles[i]? = some ⟨k, true⟩ := by
  by_cases hlive : ∃ k', o.handles[j]? = some ⟨k', false⟩
  · obtain ⟨k', hk'⟩ := hlive
    have hne : j ≠ i := by
      rintro rfl
      rw [h] at hk'
      cases hk'
    rw [dispose_of_live hk']
    show (o.handles.set j ⟨k', true⟩)[i]? = _
    rw [List.getElem?_set_ne hne]
    exact h
  · rw [dispose_of_not_live fun k' hk' => hlive ⟨k', hk'⟩]
    exact h

omit [DecidableEq κ] in
theorem disposed_observe {i : Nat} {k : κ} (h : o.handles[i]? = some ⟨k, true⟩) (k' : κ) :
    (o.observe k').handles[i]? = some ⟨k, true⟩ := by
  show (o.handles ++ [_])[i]? = _
  rw [List.getElem?_append_left (List.getElem?_eq_some_iff.1 h).1]
  exact h

/-- The handle that is disposed of is dead. -/
theorem disposed_self {i : Nat} {k : κ} {b : Bool} (h : o.handles[i]? = some ⟨k, b⟩) :
    (o.dispose i).handles[i]? = some ⟨k, true⟩ := by
  cases b with
  | true => exact disposed_dispose h i
  | false =>
    rw [dispose_of_live h]
    show (o.handles.set i ⟨k, true⟩)[i]? = _
    rw [List.getElem?_set_self (List.getElem?_eq_some_iff.1 h).1]

/-- **A callback that was registered once is not listed when its handle is dead.** -/
theorem IsBalanced.notMem (h : o.IsBalanced) {i : Nat} {k : κ}
    (hdead : o.handles[i]? = some ⟨k, true⟩) (honce : o.registrations k ≤ 1) : k ∉ o.listed := by
  -- A live handle of the callback would be another one than the dead one.
  have hboth : o.handles.count (⟨k, false⟩ : Handle κ) + o.handles.count (⟨k, true⟩ : Handle κ) ≤
      o.registrations k := by
    unfold registrations
    generalize o.handles = handles
    induction handles with
    | nil => simp
    | cons first rest ih =>
      obtain ⟨k', b⟩ := first
      by_cases hk : k' = k
      · cases b <;> simp [hk] <;> omega
      · simpa [hk] using ih
  have hdead : 0 < o.handles.count (⟨k, true⟩ : Handle κ) :=
    List.count_pos_iff.2 (List.mem_of_getElem? hdead)
  rw [← List.count_eq_zero, h k]
  omega

end Observers

/-! ## §2. What deeds do to the observers. -/

namespace Scene

variable {σ : Type} {x : Scene σ}

/-- What registering and disposing keep is kept by all deeds. -/
theorem observers_perform (l : Listener σ) {P : Observers Callback → Prop}
    (hobserve : ∀ o k, P o → P (o.observe k)) (hdispose : ∀ o i, P o → P (o.dispose i)) (d : Deed)
    (h : P x.observers) : P (perform l d x).2.observers := by
  cases d with
  | observe name => exact hobserve _ _ h
  | dispose i => exact hdispose _ _ h
  | set rules => exact h
  | announce => exact h
  | invoke c =>
    cases c with
    | service => exact h
    | host name =>
      simp only [perform]
      cases takeScript name x.scripts <;> exact h
  | start =>
    simp only [perform]
    cases x.subscription with
    | some i => exact h
    | none => exact hobserve _ _ h
  | stop =>
    simp only [perform]
    cases x.subscription with
    | some i => exact hdispose _ _ h
    | none => exact h

end Scene

/-! ## §3. Calls after a handle was disposed of. -/

namespace Juncture

open Scene

variable {σ : Type} {l : Listener σ} {m m' : Juncture σ} {past : List Happening}

/-- What holds at every juncture. -/
structure Sound (m : Juncture σ) : Prop where
  ask : AskOnly m.scene.scripts
  balanced : m.scene.observers.IsBalanced

theorem sound_initial (rules : List String) {scripts : List (String × List (List Deed))}
    (hscripts : AskOnly scripts) (service : σ) : Sound (initial rules scripts service) :=
  ⟨hscripts, Observers.isBalanced_none⟩

theorem sound_step {what : Happening} (h : Sound m) (hstep : Step l m what m') : Sound m' := by
  cases hstep with
  | deed d rest x =>
    exact ⟨askOnly_perform l h.ask d,
      observers_perform l (fun _ k ho => ho.observe k) (fun _ i ho => ho.dispose i) d h.balanced⟩
  | ask d x hask => exact ⟨h.ask, h.balanced⟩
  | fail x hrest => exact ⟨h.ask, h.balanced⟩

theorem sound_course (h : Sound m) (hcourse : Course l m past m') : Sound m' := by
  induction hcourse with
  | here => exact h
  | next _ hstep ih => exact sound_step ih hstep

/-- What registering and disposing keep outlasts a step. -/
theorem observers_step {P : Observers Callback → Prop} (hobserve : ∀ o k, P o → P (o.observe k))
    (hdispose : ∀ o i, P o → P (o.dispose i)) {what : Happening} (hstep : Step l m what m')
    (h : P m.scene.observers) : P m'.scene.observers := by
  cases hstep with
  | deed d rest x => exact observers_perform l hobserve hdispose d h
  | ask d x hask => exact h
  | fail x hrest => exact h

/-- A callback is registered more often as time goes by. -/
theorem registrations_step {what : Happening} (hstep : Step l m what m') (c : Callback) :
    m.scene.observers.registrations c ≤ m'.scene.observers.registrations c :=
  observers_step (P := fun o => m.scene.observers.registrations c ≤ o.registrations c)
    (fun o k h => Nat.le_trans h (o.registrations_observe k c))
    (fun o i h => Nat.le_trans h (Nat.le_of_eq (o.registrations_dispose i c).symm)) hstep
    (Nat.le_refl _)

/-- The number of calls of a callback among what has happened. -/
def calls (c : Callback) (past : List Happening) : Nat := past.count (.done (.invoke c))

/-- The number of calls of a callback that are still to be made. -/
def outstanding (c : Callback) (m : Juncture σ) : Nat := m.agenda.count (.invoke c)

theorem calls_concat (c : Callback) (past : List Happening) (what : Happening) :
    calls c (past ++ [what]) = calls c past + if what = .done (.invoke c) then 1 else 0 := by
  unfold calls
  rw [List.count_append, List.count_singleton]
  simp only [beq_iff_eq]

/-- **No call of a callback that is not listed is added by a step**, and none is dropped unless a
callback fails. -/
theorem count_step {c : Callback} {what : Happening} (hsound : Sound m)
    (hc : c ∉ m.scene.observers.listed) (hstep : Step l m what m') :
    (if what = .done (.invoke c) then 1 else 0) + outstanding c m' ≤ outstanding c m ∧
      (what ≠ .failed →
        (if what = .done (.invoke c) then 1 else 0) + outstanding c m' = outstanding c m) := by
  cases hstep with
  | deed d rest x =>
    have hnone : (x.perform l d).1.count (.invoke c) = 0 := count_invoke_perform l hsound.ask hc d
    have hcount : (if Happening.done d = .done (.invoke c) then 1 else 0) +
        ((x.perform l d).1 ++ rest).count (.invoke c) = (d :: rest).count (.invoke c) := by
      rw [List.count_append, hnone, List.count_cons]
      simp only [Happening.done.injEq, beq_iff_eq]
      omega
    exact ⟨Nat.le_of_eq hcount, fun _ => hcount⟩
  | ask d x hask =>
    have hother : d ≠ .invoke c := by
      rintro rfl
      cases hask
    have hcount : (if Happening.asked d = .done (.invoke c) then 1 else 0) +
        [d].count (.invoke c) = ([] : List Deed).count (.invoke c) := by
      rw [List.count_singleton]
      simp [hother]
    exact ⟨Nat.le_of_eq hcount, fun _ => hcount⟩
  | @fail agenda rest x hrest =>
    refine ⟨?_, fun hne => absurd rfl hne⟩
    show 0 + rest.count (.invoke c) ≤ agenda.count (.invoke c)
    rw [Nat.zero_add]
    exact hrest.sublist.count_le _

/-- A handle that is dead stays so. -/
theorem dead_course {i : Nat} {c : Callback}
    (hdead : m.scene.observers.handles[i]? = some ⟨c, true⟩) (hcourse : Course l m past m') :
    m'.scene.observers.handles[i]? = some ⟨c, true⟩ := by
  induction hcourse with
  | here => exact hdead
  | next _ hstep ih =>
    exact observers_step (P := fun o => o.handles[i]? = some ⟨c, true⟩)
      (fun _ k h => Observers.disposed_observe h k) (fun _ j h => Observers.disposed_dispose h j)
      hstep ih

/-- From a juncture on at which its only handle is dead, the calls of a callback are those that are
outstanding there. -/
theorem count_course {c : Callback} {i : Nat} (hsound : Sound m)
    (hdead : m.scene.observers.handles[i]? = some ⟨c, true⟩) (hcourse : Course l m past m')
    (honce : m'.scene.observers.registrations c ≤ 1) :
    calls c past + outstanding c m' ≤ outstanding c m ∧
      (.failed ∉ past → calls c past + outstanding c m' = outstanding c m) := by
  induction hcourse with
  | here =>
    have hnone : calls c [] + outstanding c m = outstanding c m := Nat.zero_add _
    exact ⟨Nat.le_of_eq hnone, fun _ => hnone⟩
  | next hbefore hstep ih =>
    have honce := Nat.le_trans (registrations_step hstep c) honce
    have hsound := sound_course hsound hbefore
    -- The callback is off the list at the juncture before the last step.
    have hunlisted := hsound.balanced.notMem (dead_course hdead hbefore) honce
    obtain ⟨hle, heq⟩ := ih honce
    obtain ⟨hstep_le, hstep_eq⟩ := count_step hsound hunlisted hstep
    rw [calls_concat]
    refine ⟨by omega, fun hfailed => ?_⟩
    rw [List.mem_append, List.mem_singleton, not_or] at hfailed
    have := heq hfailed.1
    have := hstep_eq (Ne.symm hfailed.2)
    omega

section

variable {rules : List String} {scripts : List (String × List (List Deed))} {service : σ} {i : Nat}
  {c : Callback} {disposed : Bool} {rest : List Deed} {x : Scene σ} {before after : List Happening}

/-- A juncture at which a handle is disposed of is such a juncture. -/
theorem count_dispose (hscripts : AskOnly scripts)
    (hreach : Course l (initial rules scripts service) before ⟨.dispose i :: rest, x⟩)
    (hhandle : x.observers.handles[i]? = some ⟨c, disposed⟩)
    (hlater : Course l ⟨rest, (x.perform l (.dispose i)).2⟩ after m)
    (honce : m.scene.observers.registrations c ≤ 1) :
    calls c after + outstanding c m ≤ rest.count (.invoke c) ∧
      (.failed ∉ after → calls c after + outstanding c m = rest.count (.invoke c)) := by
  have hsound : Sound ⟨rest, (x.perform l (.dispose i)).2⟩ :=
    sound_step (sound_course (sound_initial rules hscripts service) hreach)
      (.deed (.dispose i) rest x)
  have hdead : (x.perform l (.dispose i)).2.observers.handles[i]? = some ⟨c, true⟩ :=
    Observers.disposed_self hhandle
  exact count_course hsound hdead hlater honce

/-- **Once a handle is disposed of, the calls of its callback are those that were outstanding then**,
if the callback has been registered this once.  Some observers do what they like with the source, and
the handle is disposed of at some juncture; look at a later one.

1. The calls that have been made since, and those that are still to be made, were outstanding: the
   announcements that were under way had listed them already.
2. If no callback has failed since, these are all of them.
3. If moreover nothing is left to be done, the callback has been silent just if no call of it was
   outstanding. -/
theorem calls_after_dispose (hscripts : AskOnly scripts)
    (hreach : Course l (initial rules scripts service) before ⟨.dispose i :: rest, x⟩)
    (hhandle : x.observers.handles[i]? = some ⟨c, disposed⟩)
    (hlater : Course l ⟨rest, (x.perform l (.dispose i)).2⟩ after m)
    (honce : m.scene.observers.registrations c ≤ 1) :
    calls c after + outstanding c m ≤ rest.count (.invoke c) ∧
      (.failed ∉ after → calls c after + outstanding c m = rest.count (.invoke c)) ∧
      (.failed ∉ after → m.agenda = [] → (.done (.invoke c) ∉ after ↔ .invoke c ∉ rest)) := by
  obtain ⟨hle, heq⟩ := count_dispose hscripts hreach hhandle hlater honce
  refine ⟨hle, heq, fun hfailed hdone => ?_⟩
  have hall := heq hfailed
  rw [outstanding, hdone, List.count_nil, Nat.add_zero] at hall
  rw [← List.count_eq_zero, ← List.count_eq_zero]
  exact iff_of_eq (congrArg (· = 0) hall)

/-- If no call of it is outstanding when its handle is disposed of, as when that is done outside of
all announcements, the callback is silent for ever. -/
theorem silent_of_none_outstanding (hscripts : AskOnly scripts)
    (hreach : Course l (initial rules scripts service) before ⟨.dispose i :: rest, x⟩)
    (hhandle : x.observers.handles[i]? = some ⟨c, disposed⟩) (hnone : .invoke c ∉ rest)
    (hlater : Course l ⟨rest, (x.perform l (.dispose i)).2⟩ after m)
    (honce : m.scene.observers.registrations c ≤ 1) : .done (.invoke c) ∉ after := by
  have hle := (count_dispose hscripts hreach hhandle hlater honce).1
  rw [List.count_eq_zero.2 hnone] at hle
  unfold calls at hle
  rw [← List.count_eq_zero]
  omega

end

/-- An observer that disposes of the second handle when it is called. -/
def rival : List (String × List (List Deed)) := [("A", [[.dispose 1]])]

/-- A source after some deeds, with such an observer at hand. -/
def withRival (deeds : List Deed) : Scene Unit :=
  deeds.foldl (fun x d => (x.perform .silent d).2) (Scene.initial [] rival ())

/-- The observer that is disposed of. -/
def victim : Callback := .host "B"

/-- The two observe the source, the rules are set, and the first has just been called. -/
def attacked : Scene Unit :=
  withRival [.observe "A", .observe "B", .set ["x"], .invoke (.host "A")]

theorem course_attacked :
    Course .silent (initial [] rival ())
      [.asked (.observe "A"), .done (.observe "A"), .asked (.observe "B"), .done (.observe "B"),
        .asked (.set ["x"]), .done (.set ["x"]), .done (.invoke (.host "A"))]
      ⟨[.dispose 1, .invoke victim], attacked⟩ := by
  have hfirst : Course .silent (initial [] rival ()) [.asked (.observe "A"), .done (.observe "A")]
      ⟨[], withRival [.observe "A"]⟩ :=
    ((Course.here _).next (.ask (.observe "A") _ rfl)).next (.deed (.observe "A") [] _)
  have hsecond : Course .silent (initial [] rival ())
      [.asked (.observe "A"), .done (.observe "A"), .asked (.observe "B"), .done (.observe "B")]
      ⟨[], withRival [.observe "A", .observe "B"]⟩ :=
    (hfirst.next (.ask (.observe "B") _ rfl)).next (.deed (.observe "B") [] _)
  have hset : Course .silent (initial [] rival ())
      [.asked (.observe "A"), .done (.observe "A"), .asked (.observe "B"), .done (.observe "B"),
        .asked (.set ["x"]), .done (.set ["x"])]
      ⟨[.invoke (.host "A"), .invoke victim],
        withRival [.observe "A", .observe "B", .set ["x"]]⟩ :=
    (hsecond.next (.ask (.set ["x"]) _ rfl)).next (.deed (.set ["x"]) [] _)
  exact hset.next (.deed (.invoke (.host "A")) [.invoke victim] _)

/-- The source when the first observer has disposed of the second one's handle, and the second has
been called. -/
def avenged : Scene Unit :=
  ((attacked.perform .silent (.dispose 1)).2.perform .silent (.invoke victim)).2

theorem course_avenged :
    Course .silent ⟨[.invoke victim], (attacked.perform .silent (.dispose 1)).2⟩
      [.done (.invoke victim)] ⟨[], avenged⟩ :=
  (Course.here _).next (.deed (.invoke victim) [] _)

theorem askOnly_rival : AskOnly rival := by
  simp [AskOnly, rival, Deed.isCall]

/-- A handle that is disposed of in the midst of an announcement, before its callback is called. -/
theorem calls_when_attacked :
    calls victim [.done (.invoke victim)] + outstanding victim ⟨[], avenged⟩ = 1 :=
  have hhandle : attacked.observers.handles[1]? = some ⟨victim, false⟩ := rfl
  (calls_after_dispose askOnly_rival course_attacked hhandle course_avenged
    (by decide)).2.1 (by decide)

/-- So a callback can be called although its handle has been disposed of. -/
theorem not_silent_after_dispose :
    ¬ ∀ (rules : List String) (scripts : List (String × List (List Deed))) (i : Nat) (c : Callback)
      (b : Bool) (rest : List Deed) (x : Scene Unit) (before after : List Happening)
      (m : Juncture Unit), AskOnly scripts →
      Course .silent (initial rules scripts ()) before ⟨.dispose i :: rest, x⟩ →
      x.observers.handles[i]? = some ⟨c, b⟩ →
      Course .silent ⟨rest, (x.perform .silent (.dispose i)).2⟩ after m →
      m.scene.observers.registrations c ≤ 1 → .done (.invoke c) ∉ after := by
  intro hclaim
  have hsilent := hclaim [] rival 1 victim false [.invoke victim] attacked _ _ _ askOnly_rival
    course_attacked (by decide) course_avenged (by decide)
  exact hsilent List.mem_cons_self

end Juncture

end QuasiGrammar
