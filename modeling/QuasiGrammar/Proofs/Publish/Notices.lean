import QuasiGrammar.Proofs.Publish.Prefix
import QuasiGrammar.Publish.Trace

/-
  QuasiGrammar.Proofs.Publish.Notices
  ───────────────────────────────────
  **Publishing tells the user one thing, at its end, or nothing.**

  Up to the last step publishing is silent, whatever its calls are answered with
  (`Work.Silent`).  Then a failure is told as a warning with the text of the
  failure, and a new file is announced; a file that was there already is not
  (`leads_publish`).
-/

namespace QuasiGrammar

/-! ## §1. Work that tells nothing. -/

namespace Work

variable {α β : Type} {x : Work α}

/-- The user is told nothing, whatever calls are answered with. -/
def Silent (w : Work α) : Prop := ∀ events r, w.Leads events r → noticesOf events = []

theorem silent_pure (a : α) : Silent (pure a) := by
  intro events r h
  rw [(leads_pure.1 h).1]
  rfl

theorem silent_throw (f : Failure) : Silent (throw f : Work α) := by
  intro events r h
  rw [(leads_throw.1 h).1]
  rfl

theorem silent_ask (c : Call) : Silent (ask c) := by
  intro events r h
  rw [leads_ask.1 h]
  rfl

theorem silent_bind {f : α → Work β} (hx : x.Silent) (hf : ∀ a, (f a).Silent) :
    Silent (x >>= f) := by
  intro events r h
  rcases leads_bind.1 h with ⟨e, hfail, -⟩ | ⟨a, before, after, hbefore, hafter, rfl⟩
  · exact hx _ _ hfail
  · rw [noticesOf_append, hx _ _ hbefore, hf a _ _ hafter]
    rfl

theorem silent_tryCatch {k : Failure → Work α} (hx : x.Silent) (hk : ∀ f, (k f).Silent) :
    Silent (tryCatch x k) := by
  intro events r h
  rcases leads_tryCatch.1 h with ⟨a, hok, -⟩ | ⟨f, before, after, hbefore, hafter, rfl⟩
  · exact hx _ _ hok
  · rw [noticesOf_append, hx _ _ hbefore, hk f _ _ hafter]
    rfl

end Work

namespace Store

open Work

variable {s : Store} {e : StoreEntry} {text : String} {events : List Event}

/-! ## §2. Replacing a grammar. -/

theorem silent_deleteAll (names : List String) : Silent (deleteAll names) := by
  induction names with
  | nil => exact silent_pure ()
  | cons name rest ih => exact silent_bind (silent_ask _) fun _ => ih

theorem silent_removeGenerated (s : Store) : Silent s.removeGenerated :=
  silent_bind (silent_ask _) fun _ => silent_bind (silent_deleteAll _) fun _ => silent_pure _

theorem silent_discard (e : StoreEntry) : Silent (discard e) := by
  refine silent_tryCatch (silent_ask _) fun f => ?_
  by_cases hf : (f.isProblem || f.isSystem) = true
  · rw [if_pos hf]
    exact silent_pure ()
  · rw [if_neg hf]
    exact silent_throw f

theorem silent_unregister (s : Store) (e : StoreEntry) : Silent (s.unregister e) :=
  silent_tryCatch (silent_ask _) fun _ => silent_throw _

theorem silent_register (e : StoreEntry) : Silent (register e) :=
  silent_tryCatch (silent_ask _) fun _ => silent_bind (silent_discard e) fun _ => silent_throw _

theorem silent_replace (s : Store) (e : StoreEntry) (text : String) : Silent (s.replace e text) :=
  silent_bind (silent_unregister s e) fun _ => silent_bind (silent_removeGenerated s) fun _ =>
    silent_bind (silent_ask _) fun _ => silent_register e

theorem silent_renew (s : Store) (e : StoreEntry) (text : String) : Silent (s.renew e text) := by
  refine silent_bind (silent_ask _) fun found => ?_
  cases found with
  | true => exact silent_pure false
  | false => exact silent_bind (silent_replace s e text) fun _ => silent_pure true

/-- What is registered has been asked for. -/
theorem registered_of_leads (h : Leads (register e) events (.ok ())) :
    .register e.path ∈ callsOf events := by
  rcases leads_tryCatch.1 h with ⟨_, hask, -⟩ | ⟨f, before, after, hask, -, rfl⟩
  · rw [leads_ask.1 hask]
    exact List.mem_singleton_self _
  · rw [leads_ask.1 hask, callsOf_append]
    exact List.mem_append_left _ (List.mem_singleton_self _)

/-- A replacement that succeeds has written the file and registered it. -/
theorem calls_of_replaced (h : Leads (s.replace e text) events (.ok ())) :
    .write e.filename text ∈ callsOf events ∧ .register e.path ∈ callsOf events := by
  rcases leads_bind.1 h with ⟨f, -, hr⟩ | ⟨_, first, rest, -, hrest, rfl⟩
  · cases hr
  rcases leads_bind.1 hrest with ⟨f, -, hr⟩ | ⟨_, cleared, put, -, hput, rfl⟩
  · cases hr
  rcases leads_bind.1 hput with ⟨f, -, hr⟩ | ⟨_, wrote, last, hwrite, hregister, rfl⟩
  · cases hr
  have hlast := registered_of_leads hregister
  rw [leads_ask.1 hwrite]
  simp only [callsOf_append, List.mem_append]
  exact ⟨.inr (.inr (.inl (List.mem_singleton_self _))), .inr (.inr (.inr hlast))⟩

/-- A file that was there was asked for, and nothing else. -/
theorem events_of_found (h : Leads (s.renew e text) events (.ok false)) :
    events = [.called (.exists e.filename)] := by
  rcases leads_bind.1 h with ⟨f, -, hr⟩ | ⟨found, asked, rest, hask, hrest, rfl⟩
  · cases hr
  cases found with
  | true =>
    obtain ⟨rfl, -⟩ := leads_pure.1 hrest
    rw [leads_ask.1 hask, List.append_nil]
  | false =>
    rcases leads_bind.1 hrest with ⟨f, -, hr⟩ | ⟨_, before, after, -, hpure, -⟩
    · cases hr
    · cases (leads_pure.1 hpure).2

theorem calls_of_renewed (h : Leads (s.renew e text) events (.ok true)) :
    .write e.filename text ∈ callsOf events ∧ .register e.path ∈ callsOf events := by
  rcases leads_bind.1 h with ⟨f, -, hr⟩ | ⟨found, asked, rest, -, hrest, rfl⟩
  · cases hr
  cases found with
  | true => cases (leads_pure.1 hrest).2
  | false =>
    rcases leads_bind.1 hrest with ⟨f, -, hr⟩ | ⟨_, before, after, hreplace, hpure, rfl⟩
    · cases hr
    · obtain ⟨rfl, -⟩ := leads_pure.1 hpure
      obtain ⟨hwrite, hregister⟩ := calls_of_replaced hreplace
      rw [List.append_nil, callsOf_append]
      exact ⟨List.mem_append_right _ hwrite, List.mem_append_right _ hregister⟩

/-! ## §3. Publishing. -/

/-- The announcement of a new file. -/
def announcement (s : Store) (e : StoreEntry) : Notice :=
  ⟨.info, s.notificationSource, "Grammar created at \n" ++ e.path.text⟩

/-- The warning of a failure. -/
def notice (s : Store) (f : Failure) : Notice := ⟨.warning, s.notificationSource, f.message⟩

theorem isReported_classify (e : StoreEntry) (f : Failure) :
    (classify e f).markReported.isReported = true := by
  have hproblem : (classify e f).isProblem = true := by
    unfold classify
    by_cases hp : f.isProblem = true
    · rw [if_pos hp]
      exact hp
    · rw [if_neg hp]
      by_cases hs : f.isSystem = true
      · rw [if_pos hs]
        rfl
      · rw [if_neg hs]
        rfl
  cases hf : classify e f with
  | problem p reported => rfl
  | system _ | defect _ | host _ =>
    rw [hf] at hproblem
    cases hproblem

/-- What is seen of the publication of a text, and what it comes to. -/
inductive Told (s : Store) (text : String) : List Event → Except Failure String → Prop
  /-- The text has no entry.  Nobody has been told yet. -/
  | lost {f : Failure} (hentry : s.entry text = .error f) (hreported : f.isReported = false) :
      Told s text [] (.error f)
  /-- The file is there. -/
  | found {e : StoreEntry} (hentry : s.entry text = .ok e) :
      Told s text [.called (.exists e.filename)] (.ok e.filename)
  /-- The file is new, and announced. -/
  | announced {e : StoreEntry} {events : List Event} (hentry : s.entry text = .ok e)
      (hsilent : noticesOf events = []) (hwrite : .write e.filename text ∈ callsOf events)
      (hregister : .register e.path ∈ callsOf events) :
      Told s text (events ++ [.noticed (s.announcement e)]) (.ok e.filename)
  /-- A call failed, and the user has been told. -/
  | warned {events : List Event} {f : Failure} (hsilent : noticesOf events = [])
      (hreported : f.isReported = true) :
      Told s text (events ++ [.noticed (s.notice f)]) (.error f)

/-- **Whatever its calls are answered with, publishing tells one thing at its end, or nothing.** -/
theorem leads_publish {r : Except Failure String} (h : Leads (s.publish text) events r) :
    s.Told text events r := by
  unfold publish at h
  cases hentry : s.entry text with
  | error f =>
    rw [hentry] at h
    obtain ⟨rfl, rfl⟩ := leads_throw.1 h
    refine .lost hentry ?_
    rw [((s.entry_eq_error_iff text).1 hentry).2]
    rfl
  | ok e =>
    rw [hentry] at h
    rcases leads_bind.1 h with ⟨f, hcatch, rfl⟩ | ⟨renewed, before, after, hcatch, hrest, rfl⟩
    · -- The renewal failed, so what is seen last is the report.
      rcases leads_tryCatch.1 hcatch with ⟨_, -, hok⟩ | ⟨cause, tried, report, hrenew, hreport, rfl⟩
      · cases hok
      rcases leads_bind.1 hreport with ⟨_, htell, -⟩ | ⟨_, told, thrown, htell, hthrow, rfl⟩
      · cases (leads_tell.1 htell).2
      obtain ⟨rfl, -⟩ := leads_tell.1 htell
      obtain ⟨rfl, hf⟩ := leads_throw.1 hthrow
      cases hf
      have hnotice : (⟨.warning, s.notificationSource, (classify e cause).message⟩ : Notice) =
          s.notice (classify e cause).markReported := by
        rw [notice, Failure.message_markReported]
      rw [List.append_nil, hnotice]
      exact .warned (silent_renew s e text _ _ hrenew) (isReported_classify e cause)
    · rcases leads_tryCatch.1 hcatch with ⟨_, hrenew, hok⟩ | ⟨cause, tried, report, -, hreport, -⟩
      · cases hok
        cases renewed with
        | true =>
          rcases leads_bind.1 hrest with ⟨_, htell, -⟩ | ⟨_, told, last, htell, hpure, rfl⟩
          · cases (leads_tell.1 htell).2
          obtain ⟨rfl, -⟩ := leads_tell.1 htell
          obtain ⟨rfl, rfl⟩ := leads_pure.1 hpure
          obtain ⟨hwrite, hregister⟩ := calls_of_renewed hrenew
          exact .announced hentry (silent_renew s e text _ _ hrenew) hwrite hregister
        | false =>
          obtain ⟨rfl, rfl⟩ := leads_pure.1 hrest
          rw [events_of_found hrenew, List.append_nil]
          exact .found hentry
      · -- A report fails.
        rcases leads_bind.1 hreport with ⟨_, -, hr⟩ | ⟨_, told, thrown, -, hthrow, -⟩
        · cases hr
        · cases (leads_throw.1 hthrow).2

end Store

end QuasiGrammar
