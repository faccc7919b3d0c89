import QuasiGrammar.Proofs.Publish.Notices
import QuasiGrammar.Proofs.Publish.SingleFile
import QuasiGrammar.Publish.Dialogue

/-
  QuasiGrammar.Proofs.Publish.Order
  ─────────────────────────────────
  **Every publication makes its calls in one order, and stops where it has to.**

      exists?  unregister  list  delete …  write  register  (delete)

  Whatever the calls are answered with, the dialogue of a publication is one of
  four (`Publishes`): the file is found, or a call fails before the registration
  (`Prepares`), or the registration is refused, or all is done.  Each of them is
  built of calls in turn (`InTurn`), and keeps the order (`KeepsOrder`).
-/

namespace QuasiGrammar

open Work

/-- What comes before and after an item of two lists in a row. -/
theorem append_eq_append_cons {α : Type} {front rest before after : List α} {x : α}
    (h : front ++ rest = before ++ x :: after) :
    (∃ mid, front = before ++ x :: mid ∧ after = mid ++ rest) ∨
      ∃ mid, before = front ++ mid ∧ rest = mid ++ x :: after := by
  rcases List.append_eq_append_iff.1 h with ⟨mid, hbefore, hrest⟩ | ⟨mid, hfront, hafter⟩
  · exact .inr ⟨mid, hbefore, hrest⟩
  · rcases List.cons_eq_append_iff.1 hafter with ⟨rfl, hrest⟩ | ⟨mid', rfl, hrest⟩
    · exact .inr ⟨[], by simpa using hfront.symm, by simpa using hrest⟩
    · exact .inl ⟨mid', hfront, hrest⟩

/-! ## §1. Calls one after another. -/

/-- Calls are made one after another, up to the first that fails; the last argument tells whether
all of them have been answered. -/
inductive InTurn : List Call → List Exchange → Bool → Prop
  | nil : InTurn [] [] true
  | failed (c : Call) (rest : List Call) (f : Failure) :
      InTurn (c :: rest) [.asked c (.error f)] false
  | cons {c : Call} {rest : List Call} (answer : c.Answer) {talk : List Exchange} {ok : Bool}
      (h : InTurn rest talk ok) : InTurn (c :: rest) (.asked c (.ok answer) :: talk) ok

namespace InTurn

variable {calls more : List Call} {talk rest : List Exchange} {ok : Bool}

theorem append (h : InTurn calls talk true) (hrest : InTurn more rest ok) :
    InTurn (calls ++ more) (talk ++ rest) ok := by
  generalize hall : true = all at h
  induction h with
  | nil => exact hrest
  | failed => cases hall
  | cons answer _ ih => exact .cons answer (ih hall)

/-- Once a call has failed it does not matter which ones were to follow. -/
theorem stop (h : InTurn calls talk false) (more : List Call) :
    InTurn (calls ++ more) talk false := by
  generalize hall : false = all at h
  induction h with
  | nil => cases hall
  | failed c rest f => exact .failed c _ f
  | cons answer _ ih => exact .cons answer (ih hall)

theorem callsIn_prefix (h : InTurn calls talk ok) : callsIn talk <+: calls := by
  induction h with
  | nil => exact List.prefix_rfl
  | failed c rest f => exact ⟨rest, rfl⟩
  | cons answer _ ih => exact (List.prefix_cons_inj _).2 ih

theorem callsIn_eq (h : InTurn calls talk true) : callsIn talk = calls := by
  generalize hall : true = all at h
  induction h with
  | nil => rfl
  | failed => cases hall
  | cons answer _ ih => exact congrArg _ (ih hall)

/-- Nothing is told between the calls. -/
theorem told_notMem (h : InTurn calls talk ok) (n : Notice) : .told n ∉ talk := by
  induction h with
  | nil => simp
  | failed => simp
  | cons answer _ ih => simpa using ih

/-- A call that fails is the last one, and then not all are answered. -/
theorem eq_nil_of_failed (h : InTurn calls talk ok) {before after : List Exchange} {c : Call}
    {f : Failure} (htalk : talk = before ++ .asked c (.error f) :: after) :
    after = [] ∧ ok = false := by
  induction h generalizing before with
  | nil => simp at htalk
  | failed c' rest f' =>
    rcases List.cons_eq_append_iff.1 htalk with ⟨rfl, hrest⟩ | ⟨before', rfl, hrest⟩
    · cases hrest
      exact ⟨rfl, rfl⟩
    · simp at hrest
  | cons answer _ ih =>
    rcases List.cons_eq_append_iff.1 htalk with ⟨rfl, hrest⟩ | ⟨before', rfl, hrest⟩
    · cases hrest
    · exact ih hrest

theorem exists_failed (h : InTurn calls talk false) : ∃ c f, .asked c (.error f) ∈ talk := by
  generalize hall : false = all at h
  induction h with
  | nil => cases hall
  | failed c rest f => exact ⟨c, f, List.mem_singleton_self _⟩
  | cons answer _ ih =>
    obtain ⟨c, f, hmem⟩ := ih hall
    exact ⟨c, f, List.mem_cons_of_mem _ hmem⟩

end InTurn

namespace Store

variable {s : Store} {text : String} {talk : List Exchange}

/-! ## §2. The parts of a publication. -/

theorem talks_deleteAll {names : List String} {r : Except Failure Unit}
    (h : Talks (deleteAll names) talk r) : InTurn (names.map .delete) talk r.isOk := by
  induction names generalizing talk with
  | nil =>
    obtain ⟨rfl, rfl⟩ := talks_pure h
    exact .nil
  | cons name rest ih =>
    rcases talks_bind h with ⟨f, hask, rfl⟩ | ⟨_, asked, after, hask, hrest, rfl⟩
    · rw [talks_ask hask]
      exact .failed _ _ f
    · rw [talks_ask hask]
      exact .cons _ (ih hrest)

/-- The directory cannot be listed, or the listed names of the store are deleted. -/
theorem talks_removeGenerated {r : Except Failure (List String)}
    (h : Talks s.removeGenerated talk r) :
    (∃ f, talk = [.asked .list (.error f)] ∧ r = .error f) ∨
      ∃ names deleted, talk = .asked .list (.ok names) :: deleted ∧
        InTurn ((names.filter s.isGenerated).map .delete) deleted r.isOk := by
  rcases talks_bind h with ⟨f, hask, rfl⟩ | ⟨names, asked, after, hask, hrest, rfl⟩
  · exact .inl ⟨f, talks_ask hask, rfl⟩
  · rw [talks_ask hask]
    refine .inr ⟨names, after, rfl, ?_⟩
    rcases talks_bind hrest with ⟨f, hdel, rfl⟩ | ⟨_, deleted, done, hdel, hpure, rfl⟩
    · exact talks_deleteAll hdel
    · obtain ⟨rfl, rfl⟩ := talks_pure hpure
      rw [List.append_nil]
      exact talks_deleteAll hdel

/-- The failure of a removal that the registry has refused. -/
def removalProblem (s : Store) (e : StoreEntry) (f : Failure) : Failure :=
  registrationProblem e ("Unable to remove grammar " ++ s.scopeName ++ " (" ++ f.message ++ ")")

/-- The failure of a registration that has been refused.  The answer is that to the deletion of the
file: what the directory or the system refuses is let be. -/
def refusal (e : StoreEntry) : Except Failure Unit → Failure
  | .ok () => registrationProblem e "Unable to add Grammar to registry"
  | .error f =>
      if f.isProblem || f.isSystem then registrationProblem e "Unable to add Grammar to registry"
      else f

theorem refusal_of_handled {e : StoreEntry} {f : Failure} (h : (f.isProblem || f.isSystem) = true) :
    refusal e (.error f) = refusal e (.ok ()) := if_pos h

theorem refusal_of_other {e : StoreEntry} {f : Failure} (h : ¬ (f.isProblem || f.isSystem) = true) :
    refusal e (.error f) = f := if_neg h

theorem talks_unregister {e : StoreEntry} {r : Except Failure Unit}
    (h : Talks (s.unregister e) talk r) :
    (∃ f, talk = [.asked (.unregister s.scopeName) (.error f)] ∧
        r = .error (s.removalProblem e f)) ∨
      talk = [.asked (.unregister s.scopeName) (.ok ())] ∧ r = .ok () := by
  rcases talks_tryCatch h with ⟨_, hask, rfl⟩ | ⟨f, asked, after, hask, hthrow, rfl⟩
  · exact .inr ⟨talks_ask hask, rfl⟩
  · obtain ⟨rfl, rfl⟩ := talks_throw hthrow
    rw [talks_ask hask]
    exact .inl ⟨f, rfl, rfl⟩

/-- The file is to be deleted, and only a failure of another kind than those of the directory and of
the system is one of the whole. -/
theorem talks_discard {e : StoreEntry} {r : Except Failure Unit} (h : Talks (discard e) talk r) :
    ∃ q, talk = [.asked (.delete e.filename) q] ∧
      ((r = .ok () ∧ refusal e q = refusal e (.ok ())) ∨ r = .error (refusal e q)) := by
  rcases talks_tryCatch h with ⟨_, hask, rfl⟩ | ⟨f, asked, after, hask, hguard, rfl⟩
  · exact ⟨_, talks_ask hask, .inl ⟨rfl, rfl⟩⟩
  · rw [talks_ask hask]
    refine ⟨.error f, ?_⟩
    by_cases hf : (f.isProblem || f.isSystem) = true
    · rw [if_pos hf] at hguard
      obtain ⟨rfl, rfl⟩ := talks_pure hguard
      exact ⟨rfl, .inl ⟨rfl, refusal_of_handled hf⟩⟩
    · rw [if_neg hf] at hguard
      obtain ⟨rfl, rfl⟩ := talks_throw hguard
      exact ⟨rfl, .inr (by rw [refusal_of_other hf])⟩

/-- A file is registered, or deleted again. -/
theorem talks_register {e : StoreEntry} {r : Except Failure Unit} (h : Talks (register e) talk r) :
    (∃ f q, talk = [.asked (.register e.path) (.error f), .asked (.delete e.filename) q] ∧
        r = .error (refusal e q)) ∨
      talk = [.asked (.register e.path) (.ok ())] ∧ r = .ok () := by
  rcases talks_tryCatch h with ⟨_, hask, rfl⟩ | ⟨f, asked, after, hask, hguard, rfl⟩
  · exact .inr ⟨talks_ask hask, rfl⟩
  · rw [talks_ask hask]
    rcases talks_bind hguard with ⟨f', hdis, rfl⟩ | ⟨_, deleted, thrown, hdis, hthrow, rfl⟩
    · obtain ⟨q, rfl, ⟨hok, -⟩ | hf⟩ := talks_discard hdis
      · cases hok
      · exact .inl ⟨f, q, rfl, hf⟩
    · obtain ⟨q, rfl, ⟨-, hq⟩ | hf⟩ := talks_discard hdis
      · obtain ⟨rfl, rfl⟩ := talks_throw hthrow
        refine .inl ⟨f, q, rfl, ?_⟩
        rw [hq]
        rfl
      · cases hf

/-- A report is a warning. -/
theorem talks_reportFailure {e : StoreEntry} {f : Failure} {r : Except Failure Bool}
    (h : Talks (s.reportFailure e f) talk r) :
    talk = [.told (s.notice (classify e f))] ∧ r = .error (classify e f).markReported := by
  rcases talks_bind h with ⟨f', htell, -⟩ | ⟨_, told, thrown, htell, hthrow, rfl⟩
  · cases (talks_tell htell).2
  · obtain ⟨rfl, -⟩ := talks_tell htell
    obtain ⟨rfl, rfl⟩ := talks_throw hthrow
    exact ⟨rfl, rfl⟩

/-! ## §3. The dialogue of a publication. -/

/-- The calls of a publication before its registration, if the directory lists some names. -/
def preparation (s : Store) (text : String) (names : List String) : List Call :=
  .exists (s.nameOf text) :: .unregister s.scopeName :: .list ::
    ((names.filter s.isGenerated).map .delete ++ [.write (s.nameOf text) text])

/-- The calls of a publication in their order, if the directory lists some names. -/
def procedure (s : Store) (text : String) (names : List String) : List Call :=
  s.preparation text names ++ [.register (s.pathTo (s.nameOf text))]

/-- The dialogue up to the registration: the file is not there, and the names that are deleted are
those that have been listed. -/
inductive Prepares (s : Store) (text : String) : List String → List Exchange → Bool → Prop
  | unknown (f : Failure) :
      Prepares s text [] [.asked (.exists (s.nameOf text)) (.error f)] false
  | kept (f : Failure) :
      Prepares s text [] [.asked (.exists (s.nameOf text)) (.ok false),
        .asked (.unregister s.scopeName) (.error f)] false
  | unlisted (f : Failure) :
      Prepares s text [] [.asked (.exists (s.nameOf text)) (.ok false),
        .asked (.unregister s.scopeName) (.ok ()), .asked .list (.error f)] false
  | listed {names : List String} {rest : List Exchange} {ok : Bool}
      (h : InTurn ((names.filter s.isGenerated).map .delete ++ [.write (s.nameOf text) text])
        rest ok) :
      Prepares s text names (.asked (.exists (s.nameOf text)) (.ok false) ::
        .asked (.unregister s.scopeName) (.ok ()) :: .asked .list (.ok names) :: rest) ok

/-- The dialogue of a publication: the file is found, or the preparation stops, or the registration
is refused, or all is done. -/
inductive Publishes (s : Store) (text : String) : List Exchange → Except Failure String → Prop
  | found : Publishes s text [.asked (.exists (s.nameOf text)) (.ok true)] (.ok (s.nameOf text))
  | stopped {names : List String} {front : List Exchange} {n : Notice} (f : Failure)
      (hfront : s.Prepares text names front false) (hn : n.level = .warning) :
      Publishes s text (front ++ [.told n]) (.error f)
  | refused {names : List String} {front : List Exchange} {n : Notice} (f f' : Failure)
      (q : Except Failure Unit) (hfront : s.Prepares text names front true)
      (hn : n.level = .warning) :
      Publishes s text (front ++ [.asked (.register (s.pathTo (s.nameOf text))) (.error f),
        .asked (.delete (s.nameOf text)) q, .told n]) (.error f')
  | published {names : List String} {front : List Exchange}
      (hfront : s.Prepares text names front true) :
      Publishes s text (front ++ [.asked (.register (s.pathTo (s.nameOf text))) (.ok ()),
        .told (s.announcement (s.ownEntry text))]) (.ok (s.nameOf text))

/-- The end of a replacement: the registration, and the deletion of the file if it is refused. -/
inductive Registers (s : Store) (text : String) : List Exchange → Except Failure Unit → Prop
  | refused (f f' : Failure) (q : Except Failure Unit) :
      Registers s text [.asked (.register (s.pathTo (s.nameOf text))) (.error f),
        .asked (.delete (s.nameOf text)) q] (.error f')
  | done : Registers s text [.asked (.register (s.pathTo (s.nameOf text))) (.ok ())] (.ok ())

/-- After the question whether the file is there, a replacement completes the preparation and goes
on to the registration, or it stops on the way. -/
theorem talks_replace {r : Except Failure Unit}
    (h : Talks (s.replace (s.ownEntry text) text) talk r) :
    (∃ names f, s.Prepares text names (.asked (.exists (s.nameOf text)) (.ok false) :: talk) false ∧
        r = .error f) ∨
      ∃ names front last,
        s.Prepares text names (.asked (.exists (s.nameOf text)) (.ok false) :: front) true ∧
          s.Registers text last r ∧ talk = front ++ last := by
  rcases talks_bind h with ⟨f, hun, rfl⟩ | ⟨_, removed, after, hun, hrest, rfl⟩
  · rcases talks_unregister hun with ⟨f', rfl, -⟩ | ⟨-, hok⟩
    · exact .inl ⟨[], f, .kept f', rfl⟩
    · cases hok
  rcases talks_unregister hun with ⟨_, -, hbad⟩ | ⟨rfl, -⟩
  · cases hbad
  rcases talks_bind hrest with ⟨f, hclear, rfl⟩ | ⟨_, cleared, after, hclear, hput, rfl⟩
  · rcases talks_removeGenerated hclear with ⟨f', rfl, -⟩ | ⟨names, deleted, rfl, hdeleted⟩
    · exact .inl ⟨[], f, .unlisted f', rfl⟩
    · exact .inl ⟨names, f, .listed (hdeleted.stop _), rfl⟩
  rcases talks_removeGenerated hclear with ⟨_, -, hbad⟩ | ⟨names, deleted, rfl, hdeleted⟩
  · cases hbad
  rcases talks_bind hput with ⟨f, hwrite, rfl⟩ | ⟨_, wrote, last, hwrite, hregister, rfl⟩
  · rw [talks_ask hwrite]
    exact .inl ⟨names, f, .listed (hdeleted.append (.failed _ _ f)), rfl⟩
  · rw [talks_ask hwrite]
    refine .inr ⟨names, .asked (.unregister s.scopeName) (.ok ()) :: .asked .list (.ok names) ::
      (deleted ++ [.asked (.write (s.nameOf text) text) (.ok ())]), last,
      .listed (hdeleted.append (.cons _ .nil)), ?_, by simp [ownEntry]⟩
    rcases talks_register hregister with ⟨f, q, rfl, rfl⟩ | ⟨rfl, rfl⟩
    · exact .refused f _ q
    · exact .done

/-- The dialogue of a renewal: it finds the file, or it replaces the grammar. -/
theorem talks_renew {r : Except Failure Bool} (h : Talks (s.renew (s.ownEntry text) text) talk r) :
    (talk = [.asked (.exists (s.nameOf text)) (.ok true)] ∧ r = .ok false) ∨
      (∃ names f, s.Prepares text names talk false ∧ r = .error f) ∨
      ∃ names front last q, s.Prepares text names front true ∧ s.Registers text last q ∧
        talk = front ++ last ∧ r = q.map fun _ => true := by
  rcases talks_bind h with ⟨f, hask, rfl⟩ | ⟨there, asked, after, hask, hrest, rfl⟩
  · rw [talks_ask hask]
    exact .inr (.inl ⟨[], f, .unknown f, rfl⟩)
  rw [talks_ask hask]
  cases there with
  | true =>
    obtain ⟨rfl, rfl⟩ := talks_pure hrest
    exact .inl ⟨rfl, rfl⟩
  | false =>
    rcases talks_bind hrest with ⟨f, hreplace, rfl⟩ | ⟨_, replaced, done, hreplace, hpure, rfl⟩
    · rcases talks_replace hreplace with ⟨names, _, hstop, -⟩ |
        ⟨names, front, last, hfront, hlast, rfl⟩
      · exact .inr (.inl ⟨names, f, hstop, rfl⟩)
      · exact .inr (.inr ⟨names, _, last, _, hfront, hlast, rfl, rfl⟩)
    · obtain ⟨rfl, rfl⟩ := talks_pure hpure
      rw [List.append_nil]
      rcases talks_replace hreplace with ⟨_, _, -, hbad⟩ |
        ⟨names, front, last, hfront, hlast, rfl⟩
      · cases hbad
      · exact .inr (.inr ⟨names, _, last, _, hfront, hlast, rfl, rfl⟩)

/-- Whatever its calls are answered with, this is the dialogue of a publication. -/
theorem talks_publish (hs : s.HasPlainPrefix) {r : Except Failure String}
    (h : Talks (s.publish text) talk r) : s.Publishes text talk r := by
  unfold publish at h
  rw [entry_eq hs text] at h
  rcases talks_bind h with ⟨f, hcatch, rfl⟩ | ⟨renewed, before, after, hcatch, hrest, rfl⟩
  · -- The renewal has failed, and the report is what comes last.
    rcases talks_tryCatch hcatch with ⟨_, -, hok⟩ | ⟨cause, tried, report, hrenew, hreport, rfl⟩
    · cases hok
    obtain ⟨rfl, -⟩ := talks_reportFailure hreport
    rcases talks_renew hrenew with ⟨-, hbad⟩ | ⟨names, _, hstop, -⟩ |
      ⟨names, front, last, q, hfront, hlast, rfl, hq⟩
    · cases hbad
    · exact .stopped f hstop rfl
    · cases hlast with
      | refused f' f'' q =>
        rw [List.append_assoc]
        exact .refused f' f q hfront rfl
      | done => cases hq
  rcases talks_tryCatch hcatch with ⟨_, hrenew, hok⟩ | ⟨cause, tried, report, -, hreport, -⟩
  · cases hok
    rcases talks_renew hrenew with ⟨rfl, hfound⟩ | ⟨_, _, -, hbad⟩ |
      ⟨names, front, last, q, hfront, hlast, rfl, hq⟩
    · cases hfound
      obtain ⟨rfl, rfl⟩ := talks_pure hrest
      exact .found
    · cases hbad
    · cases hlast with
      | refused => cases hq
      | done =>
        cases hq
        rcases talks_bind hrest with ⟨_, htell, -⟩ | ⟨_, told, done, htell, hpure, rfl⟩
        · cases (talks_tell htell).2
        obtain ⟨rfl, -⟩ := talks_tell htell
        obtain ⟨rfl, rfl⟩ := talks_pure hpure
        rw [List.append_nil, List.append_assoc]
        exact .published hfront
  · -- A report fails.
    cases (talks_reportFailure hreport).2

/-! ## §4. The order of the calls. -/

/-- A publication makes its calls in their order, and no call in vain. -/
structure KeepsOrder (s : Store) (text : String) (talk : List Exchange) : Prop where
  /-- The calls are the first ones of the procedure, for the names that the directory has listed;
  and just if the registration fails, the file is deleted after all of them. -/
  order : ∃ names, (∀ listed, .asked .list (.ok listed) ∈ talk → listed = names) ∧
    ((callsIn talk <+: s.procedure text names ∧
        ∀ f, .asked (.register (s.pathTo (s.nameOf text))) (.error f) ∉ talk) ∨
      callsIn talk = s.procedure text names ++ [.delete (s.nameOf text)] ∧
        ∃ f, .asked (.register (s.pathTo (s.nameOf text))) (.error f) ∈ talk)
  /-- After a call that fails there is no other call, but for that deletion. -/
  failure : ∀ before c f after, talk = before ++ .asked c (.error f) :: after →
    callsIn after = [] ∨
      c = .register (s.pathTo (s.nameOf text)) ∧ callsIn after = [.delete (s.nameOf text)]
  /-- A file that is there is left alone. -/
  found : .asked (.exists (s.nameOf text)) (.ok true) ∈ talk →
    callsIn talk = [.exists (s.nameOf text)]
  /-- What is announced has been registered. -/
  announced : ∀ before n after, talk = before ++ .told n :: after → n.level = .info →
    .asked (.register (s.pathTo (s.nameOf text))) (.ok ()) ∈ before

namespace Prepares

variable {names : List String} {front : List Exchange} {ok : Bool}

theorem inTurn (h : s.Prepares text names front ok) :
    InTurn (s.preparation text names) front ok := by
  cases h with
  | unknown f => exact .failed _ _ f
  | kept f => exact .cons _ (.failed _ _ f)
  | unlisted f => exact .cons _ (.cons _ (.failed _ _ f))
  | listed h => exact .cons _ (.cons _ (.cons _ h))

/-- The names are those that have been listed. -/
theorem eq_of_listed (h : s.Prepares text names front ok) {listed : List String}
    (hmem : .asked .list (.ok listed) ∈ front) : listed = names := by
  cases h with
  | unknown f => simp at hmem
  | kept f => simp at hmem
  | unlisted f => simp at hmem
  | listed h =>
    simp only [List.mem_cons, Exchange.asked.injEq, reduceCtorEq, false_and, false_or] at hmem
    rcases hmem with ⟨-, hsame⟩ | hmem
    · exact Except.ok.inj (eq_of_heq hsame)
    · -- The directory is not listed again.
      have hcall := h.callsIn_prefix.subset (mem_callsIn.2 ⟨_, hmem⟩)
      simp at hcall

/-- The file is not there. -/
theorem found_notMem (h : s.Prepares text names front ok) :
    .asked (.exists (s.nameOf text)) (.ok true) ∉ front := by
  intro hmem
  cases h with
  | unknown f => simp at hmem
  | kept f => simp at hmem
  | unlisted f => simp at hmem
  | @listed _ rest _ h =>
    -- The question is not asked again.
    have hrest : Exchange.asked (.exists (s.nameOf text)) (.ok true) ∈ rest := by simpa using hmem
    have hcall := h.callsIn_prefix.subset (mem_callsIn.2 ⟨_, hrest⟩)
    simp at hcall

/-- Nothing has been registered yet. -/
theorem register_notMem (h : s.Prepares text names front ok) {path : Path}
    {r : Except Failure Unit} : .asked (.register path) r ∉ front := by
  intro hmem
  have hcall := h.inTurn.callsIn_prefix.subset (mem_callsIn.2 ⟨_, hmem⟩)
  simp [preparation] at hcall

end Prepares

/-- A publication keeps the order if what follows on the preparation does. -/
theorem Prepares.keepsOrder {names : List String} {front last : List Exchange} {ok : Bool}
    (hfront : s.Prepares text names front ok) (hstop : ok = false → callsIn last = [])
    (horder : (callsIn front ++ callsIn last <+: s.procedure text names ∧
        ∀ f, .asked (.register (s.pathTo (s.nameOf text))) (.error f) ∉ last) ∨
      callsIn front ++ callsIn last = s.procedure text names ++ [.delete (s.nameOf text)] ∧
        ∃ f, .asked (.register (s.pathTo (s.nameOf text))) (.error f) ∈ last)
    (hfailure : ∀ before c f after, last = before ++ .asked c (.error f) :: after →
      callsIn after = [] ∨
        c = .register (s.pathTo (s.nameOf text)) ∧ callsIn after = [.delete (s.nameOf text)])
    (hlist : .list ∉ callsIn last) (hexists : .exists (s.nameOf text) ∉ callsIn last)
    (htold : ∀ before n after, last = before ++ .told n :: after → n.level = .info →
      .asked (.register (s.pathTo (s.nameOf text))) (.ok ()) ∈ before) :
    s.KeepsOrder text (front ++ last) := by
  constructor
  · refine ⟨names, fun listed hmem => ?_, ?_⟩
    · rcases List.mem_append.1 hmem with hmem | hmem
      · exact hfront.eq_of_listed hmem
      · exact absurd (mem_callsIn.2 ⟨_, hmem⟩) hlist
    · rw [callsIn_append]
      rcases horder with ⟨hcalls, hnone⟩ | ⟨hcalls, f, hmem⟩
      · refine .inl ⟨hcalls, fun f hmem => ?_⟩
        rcases List.mem_append.1 hmem with hmem | hmem
        · exact hfront.register_notMem hmem
        · exact hnone f hmem
      · exact .inr ⟨hcalls, f, List.mem_append_right _ hmem⟩
  · intro before c f after htalk
    rcases append_eq_append_cons htalk with ⟨mid, hmid, rfl⟩ | ⟨mid, -, hmid⟩
    · -- The preparation ends with a call that fails.
      obtain ⟨rfl, hok⟩ := hfront.inTurn.eq_nil_of_failed hmid
      exact .inl (hstop hok)
    · exact hfailure mid c f after hmid
  · intro hmem
    rcases List.mem_append.1 hmem with hmem | hmem
    · exact absurd hmem hfront.found_notMem
    · exact absurd (mem_callsIn.2 ⟨_, hmem⟩) hexists
  · intro before n after htalk hinfo
    rcases append_eq_append_cons htalk with ⟨mid, rfl, -⟩ | ⟨mid, rfl, hmid⟩
    · exact absurd (by simp) (hfront.inTurn.told_notMem n)
    · exact List.mem_append_right _ (htold mid n after hmid hinfo)

theorem Publishes.keepsOrder {r : Except Failure String} (h : s.Publishes text talk r) :
    s.KeepsOrder text talk := by
  cases h with
  | found =>
    constructor
    · exact ⟨[], by simp, .inl ⟨⟨_, rfl⟩, by simp⟩⟩
    · rintro (_ | ⟨_, _ | _⟩) c f after htalk <;> cases htalk
    · exact fun _ => rfl
    · rintro (_ | ⟨_, _ | _⟩) n after htalk <;> cases htalk
  | @stopped names front n f hfront hn =>
    refine hfront.keepsOrder (fun _ => rfl) (.inl ⟨?_, by simp⟩) ?_ (by simp) (by simp) ?_
    · rw [callsIn_told, callsIn_nil, List.append_nil]
      exact hfront.inTurn.callsIn_prefix.trans (List.prefix_append _ _)
    · rintro (_ | ⟨_, _ | _⟩) c f after hlast <;> cases hlast
    · rintro (_ | ⟨_, _ | _⟩) n' after hlast hinfo <;> cases hlast
      cases hn.symm.trans hinfo
  | @refused names front n f f' q hfront hn =>
    have hcalls := hfront.inTurn.callsIn_eq
    refine hfront.keepsOrder (fun hbad => nomatch hbad) (.inr ⟨?_, f, by simp⟩) ?_ (by simp)
      (by simp) ?_
    · simp [hcalls, procedure]
    · rintro (_ | ⟨_, _ | ⟨_, _ | ⟨_, _ | _⟩⟩⟩) c f after hlast <;> cases hlast
      · exact .inr ⟨rfl, rfl⟩
      · exact .inl rfl
    · rintro (_ | ⟨_, _ | ⟨_, _ | ⟨_, _ | _⟩⟩⟩) n' after hlast hinfo <;> cases hlast
      cases hn.symm.trans hinfo
  | @published names front hfront =>
    have hcalls := hfront.inTurn.callsIn_eq
    refine hfront.keepsOrder (fun hbad => nomatch hbad) (.inl ⟨?_, by simp⟩) ?_ (by simp)
      (by simp) ?_
    · simp [hcalls, procedure]
    · rintro (_ | ⟨_, _ | ⟨_, _ | _⟩⟩) c f after hlast <;> cases hlast
    · rintro (_ | ⟨_, _ | ⟨_, _ | _⟩⟩) n' after hlast hinfo <;> cases hlast
      exact List.mem_singleton_self _

end Store

end QuasiGrammar
