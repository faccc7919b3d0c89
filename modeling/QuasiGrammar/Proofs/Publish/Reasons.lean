import QuasiGrammar.Proofs.Publish.Order
import QuasiGrammar.Proofs.Publish.Registration

/-
  QuasiGrammar.Proofs.Publish.Reasons
  ───────────────────────────────────
  **A publication that fails says why, and says it once.**

  Whatever its calls are answered with, a publication fails just if one of them
  does, and there are three ways (`Renews`):

      files     a call of the directory fails, and its failure is passed on
      kept      the registry does not remove the grammar
      refused   the registry does not take the file, which is deleted again

  What comes of it is one problem, told in one warning (`publish_reports_once`).
  In the last way the deletion can fail too.  A failure of the directory or of
  the system is let be, but one of any other kind takes the place of the
  refusal, so that the user is not told of the registry
  (`registration_reported_iff`).
-/

namespace QuasiGrammar

open Work

/-! ## §1. Failures in a dialogue. -/

/-- The call of an exchange with its failure, if it failed. -/
def Exchange.failure? : Exchange → Option (Call × Failure)
  | .asked c (.error f) => some (c, f)
  | .asked _ (.ok _) => none
  | .told _ => none

/-- The calls of a dialogue that failed, with their failures. -/
def failuresIn (talk : List Exchange) : List (Call × Failure) :=
  talk.filterMap Exchange.failure?

section Parts

variable (talk more : List Exchange)

@[simp]
theorem failuresIn_nil : failuresIn [] = [] := rfl

@[simp]
theorem failuresIn_failed (c : Call) (f : Failure) :
    failuresIn (.asked c (.error f) :: talk) = (c, f) :: failuresIn talk := rfl

@[simp]
theorem failuresIn_answered (c : Call) (answer : c.Answer) :
    failuresIn (.asked c (.ok answer) :: talk) = failuresIn talk := rfl

@[simp]
theorem failuresIn_told (n : Notice) : failuresIn (.told n :: talk) = failuresIn talk := rfl

@[simp]
theorem failuresIn_append : failuresIn (talk ++ more) = failuresIn talk ++ failuresIn more :=
  List.filterMap_append

end Parts

/-- No call of a dialogue fails, and nothing is told. -/
structure Smooth (talk : List Exchange) : Prop where
  failures : failuresIn talk = []
  notices : noticesIn talk = []

theorem Smooth.nil : Smooth [] := ⟨rfl, rfl⟩

theorem Smooth.answered (c : Call) (answer : c.Answer) : Smooth [.asked c (.ok answer)] := ⟨rfl, rfl⟩

theorem Smooth.append {talk more : List Exchange} (h : Smooth talk) (hmore : Smooth more) :
    Smooth (talk ++ more) := by
  constructor
  · rw [failuresIn_append, h.failures, hmore.failures]
    rfl
  · rw [noticesIn_append, h.notices, hmore.notices]
    rfl

/-! ## §2. Work on files. -/

namespace Work

variable {α β : Type}

/-- The work makes calls of the directory up to the first that fails, and passes its failure on. -/
def PassesOn (w : Work α) : Prop :=
  ∀ talk r, w.Talks talk r →
    (∃ a, r = .ok a) ∧ Smooth talk ∨
      ∃ front c f, talk = front ++ [.asked c (.error f)] ∧ r = .error f ∧ Smooth front ∧
        c.goesToRegistry = false

theorem passesOn_pure (a : α) : PassesOn (pure a) := by
  intro talk r h
  obtain ⟨rfl, rfl⟩ := talks_pure h
  exact .inl ⟨⟨a, rfl⟩, .nil⟩

theorem passesOn_ask {c : Call} (hc : c.goesToRegistry = false) : PassesOn (ask c) := by
  intro talk r h
  rw [talks_ask h]
  cases r with
  | ok answer => exact .inl ⟨⟨answer, rfl⟩, .answered c answer⟩
  | error f => exact .inr ⟨[], c, f, rfl, rfl, .nil, hc⟩

theorem passesOn_bind {x : Work α} {k : α → Work β} (hx : x.PassesOn) (hk : ∀ a, (k a).PassesOn) :
    PassesOn (x >>= k) := by
  intro talk r h
  rcases talks_bind h with ⟨f, hfail, rfl⟩ | ⟨a, before, after, hbefore, hafter, rfl⟩
  · rcases hx _ _ hfail with ⟨⟨_, hbad⟩, -⟩ | ⟨front, c, f', rfl, hf, hfront, hc⟩
    · cases hbad
    · cases hf
      exact .inr ⟨front, c, f, rfl, rfl, hfront, hc⟩
  · rcases hx _ _ hbefore with ⟨-, hsmooth⟩ | ⟨_, _, _, -, hbad, -, -⟩
    · -- The first part went well, so it depends on the second one.
      rcases hk a _ _ hafter with ⟨hok, hrest⟩ | ⟨front, c, f, rfl, hf, hfront, hc⟩
      · exact .inl ⟨hok, hsmooth.append hrest⟩
      · exact .inr ⟨before ++ front, c, f, (List.append_assoc _ _ _).symm, hf,
          hsmooth.append hfront, hc⟩
    · cases hbad

theorem PassesOn.smooth {w : Work α} (hw : w.PassesOn) {talk : List Exchange} {a : α}
    (h : w.Talks talk (.ok a)) : Smooth talk := by
  rcases hw _ _ h with ⟨-, hsmooth⟩ | ⟨_, _, _, -, hbad, -, -⟩
  · exact hsmooth
  · cases hbad

theorem PassesOn.failed {w : Work α} (hw : w.PassesOn) {talk : List Exchange} {f : Failure}
    (h : w.Talks talk (.error f)) :
    ∃ front c, talk = front ++ [.asked c (.error f)] ∧ Smooth front ∧ c.goesToRegistry = false := by
  rcases hw _ _ h with ⟨⟨_, hbad⟩, -⟩ | ⟨front, c, f', htalk, hf, hfront, hc⟩
  · cases hbad
  · cases hf
    exact ⟨front, c, htalk, hfront, hc⟩

end Work

namespace Store

variable {s : Store} {e : StoreEntry} {text : String} {talk : List Exchange}

theorem passesOn_deleteAll (names : List String) : PassesOn (deleteAll names) := by
  induction names with
  | nil => exact passesOn_pure ()
  | cons name rest ih => exact passesOn_bind (passesOn_ask rfl) fun _ => ih

theorem passesOn_removeGenerated (s : Store) : PassesOn s.removeGenerated :=
  passesOn_bind (passesOn_ask rfl) fun _ =>
    passesOn_bind (passesOn_deleteAll _) fun _ => passesOn_pure _

/-! ## §3. How a renewal goes. -/

/-- The dialogue of a renewal, with the failure of the renewal if it fails. -/
inductive Renews (s : Store) (e : StoreEntry) : List Exchange → Option Failure → Prop
  | well {talk : List Exchange} (h : Smooth talk) : Renews s e talk none
  /-- A call of the directory fails. -/
  | files {front : List Exchange} {c : Call} (f : Failure) (hfront : Smooth front)
      (hc : c.goesToRegistry = false) : Renews s e (front ++ [.asked c (.error f)]) (some f)
  /-- The registry keeps the grammar. -/
  | kept (f : Failure) : Renews s e [.asked (.exists e.filename) (.ok false),
      .asked (.unregister s.scopeName) (.error f)] (some (s.removalProblem e f))
  /-- The registry refuses the file, and the file is to be deleted again. -/
  | refused {front : List Exchange} (f : Failure) (q : Except Failure Unit)
      (hfront : Smooth front) : Renews s e (front ++ [.asked (.register e.path) (.error f),
        .asked (.delete e.filename) q]) (some (refusal e q))

/-- What comes after a good beginning, if all of it passes failures on. -/
theorem Renews.of_passesOn {α : Type} {w : Work α} (hw : w.PassesOn) {front : List Exchange}
    (hfront : Smooth front) {f : Failure} (h : w.Talks talk (.error f)) :
    s.Renews e (front ++ talk) (some f) := by
  obtain ⟨more, c, rfl, hmore, hc⟩ := hw.failed h
  rw [← List.append_assoc]
  exact .files f (hfront.append hmore) hc

theorem renews_replace {r : Except Failure Unit} (h : Talks (s.replace e text) talk r) :
    s.Renews e (.asked (.exists e.filename) (.ok false) :: talk) (failureOf r) := by
  rcases talks_bind h with ⟨f, hun, rfl⟩ | ⟨_, removed, after, hun, hrest, rfl⟩
  · rcases talks_unregister hun with ⟨f', rfl, hf⟩ | ⟨-, hbad⟩
    · cases hf
      exact .kept f'
    · cases hbad
  rcases talks_unregister hun with ⟨_, -, hbad⟩ | ⟨rfl, -⟩
  · cases hbad
  have hfront : Smooth [.asked (.exists e.filename) (.ok false),
      .asked (.unregister s.scopeName) (.ok ())] := ⟨rfl, rfl⟩
  rcases talks_bind hrest with ⟨f, hclear, rfl⟩ | ⟨_, cleared, after, hclear, hput, rfl⟩
  · exact .of_passesOn (passesOn_removeGenerated s) hfront hclear
  have hcleared := hfront.append ((passesOn_removeGenerated s).smooth hclear)
  rcases talks_bind hput with ⟨f, hwrite, rfl⟩ | ⟨_, wrote, last, hwrite, hregister, rfl⟩
  · have hfails : s.Renews e _ (some f) := .of_passesOn (passesOn_ask rfl) hcleared hwrite
    simpa [failureOf] using hfails
  have hwritten := hcleared.append ((passesOn_ask rfl).smooth hwrite)
  rcases talks_register hregister with ⟨f, q, rfl, rfl⟩ | ⟨rfl, rfl⟩
  · have hfails : s.Renews e _ (some (refusal e q)) := .refused f q hwritten
    simpa [failureOf] using hfails
  · have hwell : s.Renews e _ none := .well (hwritten.append (.answered (.register e.path) ()))
    simpa [failureOf] using hwell

theorem renews_renew {r : Except Failure Bool} (h : Talks (s.renew e text) talk r) :
    s.Renews e talk (failureOf r) := by
  rcases talks_bind h with ⟨f, hask, rfl⟩ | ⟨there, asked, after, hask, hrest, rfl⟩
  · exact .of_passesOn (passesOn_ask rfl) .nil hask
  rw [talks_ask hask]
  cases there with
  | true =>
    obtain ⟨rfl, rfl⟩ := talks_pure hrest
    exact .well ⟨rfl, rfl⟩
  | false =>
    rcases talks_bind hrest with ⟨f, hreplace, rfl⟩ | ⟨_, replaced, done, hreplace, hpure, rfl⟩
    · exact renews_replace hreplace
    · obtain ⟨rfl, rfl⟩ := talks_pure hpure
      rw [List.append_nil]
      exact renews_replace hreplace

/-! ## §4. How a publication ends. -/

/-- A publication returns after calls that have been answered, and announces a file or tells
nothing; or it ends with the warning of what the failure of its renewal means for the user. -/
theorem talks_publish_cases (he : s.entry text = .ok e) {r : Except Failure String}
    (h : Talks (s.publish text) talk r) :
    (r = .ok e.filename ∧ failuresIn talk = [] ∧
        (noticesIn talk = [] ∨ noticesIn talk = [s.announcement e])) ∨
      ∃ front f, s.Renews e front (some f) ∧
        talk = front ++ [.told (s.notice (classify e f))] ∧
          r = .error (classify e f).markReported := by
  unfold publish at h
  rw [he] at h
  rcases talks_bind h with ⟨f, hcatch, rfl⟩ | ⟨renewed, before, after, hcatch, hrest, rfl⟩
  · rcases talks_tryCatch hcatch with ⟨_, -, hbad⟩ | ⟨cause, tried, report, hrenew, hreport, rfl⟩
    · cases hbad
    · obtain ⟨rfl, hf⟩ := talks_reportFailure hreport
      cases hf
      exact .inr ⟨tried, cause, renews_renew hrenew, rfl, rfl⟩
  · rcases talks_tryCatch hcatch with ⟨_, hrenew, hok⟩ | ⟨_, _, report, -, hreport, -⟩
    · cases hok
      obtain ⟨hsmooth⟩ := renews_renew hrenew
      left
      cases renewed with
      | false =>
        obtain ⟨rfl, rfl⟩ := talks_pure hrest
        rw [List.append_nil]
        exact ⟨rfl, hsmooth.failures, .inl hsmooth.notices⟩
      | true =>
        rcases talks_bind hrest with ⟨_, htell, -⟩ | ⟨_, told, done, htell, hpure, rfl⟩
        · cases (talks_tell htell).2
        obtain ⟨rfl, -⟩ := talks_tell htell
        obtain ⟨rfl, rfl⟩ := talks_pure hpure
        refine ⟨rfl, ?_, .inr ?_⟩
        · simp [hsmooth.failures]
        · simp [hsmooth.notices, announcement]
    · -- A report fails.
      cases (talks_reportFailure hreport).2

/-! ## §5. What the user is told. -/

theorem exists_classify (e : StoreEntry) (f : Failure) :
    ∃ p reported, classify e f = .problem p reported := by
  unfold classify
  cases f with
  | problem p reported => exact ⟨p, reported, rfl⟩
  | system fault => exact ⟨_, _, rfl⟩
  | defect d => exact ⟨_, _, rfl⟩
  | host fault =>
    by_cases hs : fault.isSystem = true
    · exact ⟨_, _, if_pos hs⟩
    · exact ⟨_, _, if_neg hs⟩

theorem classify_system (e : StoreEntry) {f : Failure} (hp : f.isProblem = false)
    (hs : f.isSystem = true) :
    classify e f = .problem
      (.publish .files e.path ("Unable to access grammar files (" ++ f.message ++ ")")) false := by
  simp [classify, hp, hs, Failure.fresh]

theorem classify_other (e : StoreEntry) {f : Failure} (hp : f.isProblem = false)
    (hs : f.isSystem = false) :
    classify e f = .problem
      (.publish .other e.path ("Unable to publish grammar (" ++ f.message ++ ")")) false := by
  simp [classify, hp, hs, Failure.fresh]

theorem Renews.noticesIn_eq_nil {o : Option Failure} (h : s.Renews e talk o) :
    noticesIn talk = [] := by
  cases h with
  | well h => exact h.notices
  | files f hfront hc => simp [hfront.notices]
  | kept f => rfl
  | refused f q hfront => simp [hfront.notices]

/-- The failure of a renewal is that of a call of the directory, or it comes from the registry. -/
theorem Renews.failuresIn_cases {f : Failure} (h : s.Renews e talk (some f)) :
    (∃ c, c.goesToRegistry = false ∧ failuresIn talk = [(c, f)]) ∨
      (∃ f', f = s.removalProblem e f' ∧ failuresIn talk = [(.unregister s.scopeName, f')] ∧
        callsIn talk = [.exists e.filename, .unregister s.scopeName]) ∨
      ∃ f' q, f = refusal e q ∧ [.register e.path, .delete e.filename] <:+ callsIn talk ∧
        failuresIn talk =
          (.register e.path, f') :: (failureOf q).toList.map fun f => (.delete e.filename, f) := by
  cases h with
  | @files front c f hfront hc => exact .inl ⟨c, hc, by simp [hfront.failures]⟩
  | kept f' => exact .inr (.inl ⟨f', rfl, rfl, rfl⟩)
  | @refused front f' q hfront =>
    refine .inr (.inr ⟨f', q, rfl, ⟨callsIn front, by simp⟩, ?_⟩)
    rw [failuresIn_append, hfront.failures]
    cases q <;> rfl

/-- How a publication ends if a call of it fails. -/
theorem talks_publish_failed (he : s.entry text = .ok e) {r : Except Failure String}
    (h : Talks (s.publish text) talk r) (hfail : failuresIn talk ≠ []) :
    ∃ front f, s.Renews e front (some f) ∧ callsIn talk = callsIn front ∧
      failuresIn talk = failuresIn front ∧ r = .error (classify e f).markReported := by
  rcases talks_publish_cases he h with ⟨-, hnone, -⟩ | ⟨front, f, hrenews, rfl, hr⟩
  · exact absurd hnone hfail
  · exact ⟨front, f, hrenews, by simp, by simp, hr⟩

/-- A publication returns without a warning, or one warning is all that it tells. -/
theorem publish_returns_or_warns (he : s.entry text = .ok e) {r : Except Failure String}
    (h : Talks (s.publish text) talk r) :
    (r = .ok e.filename ∧ failuresIn talk = [] ∧ ∀ n ∈ noticesIn talk, n.level = .info) ∨
      ∃ p : Problem, r = .error (.problem p true) ∧ failuresIn talk ≠ [] ∧
        noticesIn talk = [⟨.warning, s.notificationSource, p.message⟩] := by
  rcases talks_publish_cases he h with ⟨hr, hnone, hn⟩ | ⟨front, f, hrenews, rfl, hr⟩
  · refine .inl ⟨hr, hnone, ?_⟩
    rcases hn with hn | hn
    · simp [hn]
    · simp [hn, announcement]
  · obtain ⟨p, reported, hp⟩ := exists_classify e f
    refine .inr ⟨p, ?_, ?_, ?_⟩
    · rw [hr, hp]
      rfl
    · rw [failuresIn_append]
      rcases hrenews.failuresIn_cases with ⟨c, -, hf⟩ | ⟨f', -, hf, -⟩ | ⟨f', q, -, -, hf⟩ <;>
        simp [hf]
    · rw [noticesIn_append, hrenews.noticesIn_eq_nil, hp]
      rfl

/-- What a publication comes to if the registry keeps the grammar. -/
theorem publish_of_kept (he : s.entry text = .ok e) {r : Except Failure String}
    (h : Talks (s.publish text) talk r) {scope : String} {f : Failure}
    (hkept : (.unregister scope, f) ∈ failuresIn talk) :
    r = .error (classify e (s.removalProblem e f)).markReported ∧
      callsIn talk = [.exists e.filename, .unregister s.scopeName] := by
  obtain ⟨front, cause, hrenews, hcalls, hfailures, rfl⟩ :=
    talks_publish_failed he h (List.ne_nil_of_mem hkept)
  rw [hfailures] at hkept
  -- Only in one of the three ways the registry has kept the grammar.
  rcases hrenews.failuresIn_cases with ⟨c, hc, hf⟩ | ⟨f', rfl, hf, hstop⟩ | ⟨f', q, -, -, hf⟩
  · rw [hf] at hkept
    cases List.mem_singleton.1 hkept
    cases hc
  · rw [hf] at hkept
    cases List.mem_singleton.1 hkept
    exact ⟨rfl, hcalls.trans hstop⟩
  · rw [hf] at hkept
    simp at hkept

/-- What a publication comes to if a call of the directory is the first to fail. -/
theorem publish_of_first_failure (he : s.entry text = .ok e) {r : Except Failure String}
    (h : Talks (s.publish text) talk r) {c : Call} {f : Failure}
    (hfirst : (failuresIn talk).head? = some (c, f)) (hc : c.goesToRegistry = false) :
    r = .error (classify e f).markReported := by
  obtain ⟨front, cause, hrenews, -, hfailures, rfl⟩ :=
    talks_publish_failed he h (by rintro hnil; simp [hnil] at hfirst)
  rw [hfailures] at hfirst
  rcases hrenews.failuresIn_cases with ⟨c', -, hf⟩ | ⟨f', -, hf, -⟩ | ⟨f', q, -, -, hf⟩
  · rw [hf] at hfirst
    cases hfirst
    rfl
  · rw [hf] at hfirst
    cases hfirst
    cases hc
  · rw [hf] at hfirst
    cases hfirst
    cases hc

/-- **A publication that fails says why, once.**  The text has an entry; the calls may be answered
in any way.

A publication returns the name of its file if no call fails, and warns of nothing.  Otherwise it
fails with a problem that counts as told: one warning is all that the user has been told, and its
text is that of the problem.  If the registry does not remove the grammar, the problem is one of the
registration and quotes the registry, and no file has been touched.  If the first call to fail is one
of the directory, then a problem is passed on as it is, a failure of the system becomes one of the
files, and any other failure one of publishing, for the path of the entry. -/
theorem publish_reports_once (s : Store) {text : String} {e : StoreEntry}
    (he : s.entry text = .ok e) {talk : List Exchange} {r : Except Failure String}
    (h : Talks (s.publish text) talk r) :
    ((r = .ok e.filename ∧ failuresIn talk = [] ∧ ∀ n ∈ noticesIn talk, n.level = .info) ∨
      ∃ p : Problem, r = .error (.problem p true) ∧ failuresIn talk ≠ [] ∧
        noticesIn talk = [⟨.warning, s.notificationSource, p.message⟩]) ∧
    (∀ scope f, (.unregister scope, f) ∈ failuresIn talk →
      r = .error (.problem (.publish .registration e.path
          ("Unable to remove grammar " ++ s.scopeName ++ " (" ++ f.message ++ ")")) true) ∧
        callsIn talk = [.exists e.filename, .unregister s.scopeName]) ∧
    ∀ c f, (failuresIn talk).head? = some (c, f) → c.goesToRegistry = false →
      (∀ p reported, f = .problem p reported → r = .error (.problem p true)) ∧
      (f.isProblem = false → f.isSystem = true →
        r = .error (.problem (.publish .files e.path
          ("Unable to access grammar files (" ++ f.message ++ ")")) true)) ∧
      (f.isProblem = false → f.isSystem = false →
        r = .error (.problem (.publish .other e.path
          ("Unable to publish grammar (" ++ f.message ++ ")")) true)) := by
  refine ⟨publish_returns_or_warns he h, fun scope f hkept => publish_of_kept he h hkept, ?_⟩
  intro c f hfirst hc
  have hr := publish_of_first_failure he h hfirst hc
  refine ⟨?_, ?_, ?_⟩
  · rintro p reported rfl
    exact hr
  · intro hp hs
    rw [hr, classify_system e hp hs]
    rfl
  · intro hp hs
    rw [hr, classify_other e hp hs]
    rfl

/-- A host on which all calls at a place fail. -/
def failingHost (point : FaultPoint) (f : Failure) : Host :=
  sampleHost.plan point (.after 0 none fun _ => f)

/-- A directory that cannot be listed is the reason that the user is told. -/
theorem publish_reports_once_busy :
    ((sampleStore.publish "A").run.course
        (failingHost .list (.host ⟨true, "OSError", "busy"⟩))).result =
      .error (.problem (.publish .files (sampleStore.ownEntry "A").path
        "Unable to access grammar files (busy)") true) ∧
      ∃ p : Problem, noticesIn ((sampleStore.publish "A").run.talk
          (failingHost .list (.host ⟨true, "OSError", "busy"⟩))) =
        [⟨.warning, sampleStore.notificationSource, p.message⟩] := by
  have hfirst : (failuresIn ((sampleStore.publish "A").run.talk
      (failingHost .list (.host ⟨true, "OSError", "busy"⟩)))).head? =
        some (.list, .host ⟨true, "OSError", "busy"⟩) := by
    decide +kernel
  obtain ⟨hend, -, hfiles⟩ := publish_reports_once sampleStore
    (entry_eq ⟨by decide, by decide⟩ "A") (Program.talks_talk _ _)
  refine ⟨(hfiles _ _ hfirst rfl).2.1 rfl rfl, ?_⟩
  rcases hend with ⟨-, hnone, -⟩ | ⟨p, -, -, hn⟩
  · rw [hnone] at hfirst
    cases hfirst
  · exact ⟨p, hn⟩

/-! ## §6. Refused registrations. -/

/-- The publication of a file that the registry refuses comes to what is made of the refusal, once
the file has been deleted or not. -/
theorem talks_publish_refused (he : s.entry text = .ok e) {r : Except Failure String}
    (h : Talks (s.publish text) talk r) {f : Failure}
    (hreg : (.register e.path, f) ∈ failuresIn talk) :
    [.register e.path, .delete e.filename] <:+ callsIn talk ∧
      ∃ q : Except Failure Unit, r = .error (classify e (refusal e q)).markReported ∧
        ∀ f', (.delete e.filename, f') ∈ failuresIn talk ↔ q = .error f' := by
  obtain ⟨front, cause, hrenews, hcalls, hfailures, rfl⟩ :=
    talks_publish_failed he h (List.ne_nil_of_mem hreg)
  rw [hfailures] at hreg
  rcases hrenews.failuresIn_cases with ⟨c, hc, hf⟩ | ⟨f', -, hf, -⟩ | ⟨f', q, rfl, hlast, hf⟩
  · rw [hf] at hreg
    cases List.mem_singleton.1 hreg
    cases hc
  · rw [hf] at hreg
    cases List.mem_singleton.1 hreg
  · rw [hcalls, hfailures, hf]
    refine ⟨hlast, q, rfl, fun f' => ?_⟩
    cases q with
    | ok => simp [failureOf]
    | error f'' => simp [failureOf, eq_comm]

/-- **A refused registration is reported as such, unless another failure takes its place.**  The
text has an entry, and the registration of its file fails.

The last two calls are the registration and the deletion of the file.  The user is told that the
grammar could not be added to the registry just if the deletion succeeds, or fails with a problem or
a failure of the system; a failure of any other kind is what the publication fails with instead, as
a problem of publishing. -/
theorem registration_reported_iff (s : Store) {text : String} {e : StoreEntry}
    (he : s.entry text = .ok e) {talk : List Exchange} {r : Except Failure String}
    (h : Talks (s.publish text) talk r) {f : Failure}
    (hreg : (.register e.path, f) ∈ failuresIn talk) :
    [.register e.path, .delete e.filename] <:+ callsIn talk ∧
      (r = .error (.problem (.publish .registration e.path "Unable to add Grammar to registry") true) ↔
        ∀ f', (.delete e.filename, f') ∈ failuresIn talk →
          f'.isProblem = true ∨ f'.isSystem = true) ∧
      ∀ f', (.delete e.filename, f') ∈ failuresIn talk →
        f'.isProblem = false → f'.isSystem = false →
          r = .error (.problem (.publish .other e.path
            ("Unable to publish grammar (" ++ f'.message ++ ")")) true) := by
  obtain ⟨hlast, q, rfl, hq⟩ := talks_publish_refused he h hreg
  have hother : ∀ f', q = .error f' → f'.isProblem = false → f'.isSystem = false →
      (classify e (refusal e q)).markReported = .problem (.publish .other e.path
        ("Unable to publish grammar (" ++ f'.message ++ ")")) true := by
    intro f' hf' hp hs
    rw [hf', refusal_of_other (by simp [hp, hs]), classify_other e hp hs]
    rfl
  refine ⟨hlast, ⟨?_, ?_⟩, ?_⟩
  · intro hr f' hf'
    by_contra hkind
    obtain ⟨hp, hs⟩ : f'.isProblem = false ∧ f'.isSystem = false := by simpa using hkind
    rw [hother f' ((hq f').1 hf') hp hs] at hr
    cases hr
  · intro hkind
    -- Whether the file is deleted or not, the refusal is what is left.
    have hrefusal : refusal e q = refusal e (.ok ()) := by
      cases q with
      | ok => rfl
      | error f' => exact refusal_of_handled (by simpa using hkind f' ((hq f').2 rfl))
    rw [hrefusal]
    rfl
  · intro f' hf' hp hs
    rw [hother f' ((hq f').1 hf') hp hs]

/-- A host whose registry takes no file, and which then fails to delete it. -/
def refusingHost (f : Failure) : Host :=
  (failingHost .register (.host ⟨false, "RuntimeError", "grammar rejected"⟩)).plan .delete
    (.after 0 none fun _ => f)

/-- The refusal is reported although the file cannot be deleted on a disk that is read-only. -/
theorem registration_reported_readOnly :
    (.register (sampleStore.ownEntry "A").path,
        .host ⟨false, "RuntimeError", "grammar rejected"⟩) ∈
      failuresIn ((sampleStore.publish "A").run.talk
        (refusingHost (.host ⟨true, "OSError", "read-only"⟩))) ∧
      ((sampleStore.publish "A").run.course
          (refusingHost (.host ⟨true, "OSError", "read-only"⟩))).result =
        .error (.problem (.publish .registration (sampleStore.ownEntry "A").path
          "Unable to add Grammar to registry") true) := by
  have hfailures : failuresIn ((sampleStore.publish "A").run.talk
      (refusingHost (.host ⟨true, "OSError", "read-only"⟩))) =
        [(.register (sampleStore.ownEntry "A").path,
            .host ⟨false, "RuntimeError", "grammar rejected"⟩),
          (.delete (sampleStore.ownEntry "A").filename, .host ⟨true, "OSError", "read-only"⟩)] := by
    decide +kernel
  have hreg := hfailures ▸ List.mem_cons_self
  obtain ⟨-, hiff, -⟩ := registration_reported_iff sampleStore
    (entry_eq ⟨by decide, by decide⟩ "A") (Program.talks_talk _ _) hreg
  refine ⟨hreg, hiff.2 fun f' hf' => ?_⟩
  rw [hfailures] at hf'
  obtain ⟨-, rfl⟩ : _ ∧ f' = .host ⟨true, "OSError", "read-only"⟩ := by simpa using hf'
  exact .inr rfl

/-- An unexpected failure of the deletion hides the refusal. -/
theorem registration_not_reported :
    (.register (sampleStore.ownEntry "A").path,
        .host ⟨false, "RuntimeError", "grammar rejected"⟩) ∈
      failuresIn ((sampleStore.publish "A").run.talk
        (refusingHost (.host ⟨false, "ValueError", "gone"⟩))) ∧
      ((sampleStore.publish "A").run.course
          (refusingHost (.host ⟨false, "ValueError", "gone"⟩))).result =
        .error (.problem (.publish .other (sampleStore.ownEntry "A").path
          "Unable to publish grammar (gone)") true) ∧
      ((sampleStore.publish "A").run.course
          (refusingHost (.host ⟨false, "ValueError", "gone"⟩))).result ≠
        .error (.problem (.publish .registration (sampleStore.ownEntry "A").path
          "Unable to add Grammar to registry") true) := by
  decide +kernel

end Store

end QuasiGrammar
