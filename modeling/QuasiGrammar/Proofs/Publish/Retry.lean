import QuasiGrammar.Proofs.Files.Frame
import QuasiGrammar.Proofs.Publish.Handover

/-
  QuasiGrammar.Proofs.Publish.Retry
  ─────────────────────────────────
  **A publication that fails leaves no file which the next attempt would take for
  a published one.**

  Whichever call fails, the file of the text is not there afterwards
  (`publish_lacks`).  There are two exceptions:

      QuestionFails   it could not be found out whether the file is there, and
                      nothing has been changed
      DiscardFails    the file was refused by the registry, and could not be
                      deleted again

  So however often a publication fails, the first one that returns has written
  the file and registered it (`retry_publishes`).  The prefix of the store may be
  any text: the name may lead out of the directory.
-/

namespace QuasiGrammar

open Work FileTree

/-! ## §1. Calls that failed. -/

/-- The calls that failed, with their failures. -/
def failedCalls (steps : List Answered) : List (Call × Failure) :=
  steps.filterMap fun a => a.failure.map fun f => (a.call, f)

theorem failedCalls_append (before after : List Answered) :
    failedCalls (before ++ after) = failedCalls before ++ failedCalls after :=
  List.filterMap_append

namespace Host

variable {h h' : Host}

/-- Only a write makes a file. -/
theorem fewerFiles_of_answer {c : Call} {r : Except Failure c.Answer} (ha : h.answer c = (h', r))
    (hc : ∀ name text, c ≠ .write name text) : FewerFiles h.tree h'.tree := by
  cases c with
  | write name text => exact absurd rfl (hc name text)
  | delete name =>
    rcases Host.delete_answer ha with ⟨htree, -⟩ | hdelete
    · rw [htree]
      exact .refl _
    · exact GrammarDirectory.fewerFiles_of_delete hdelete
  | «exists» | list | unregister | register =>
    rw [Host.tree_of_answer rfl ha]
    exact .refl _

/-- A write that fails makes none. -/
theorem fewerFiles_of_failed_write {name text : String} {f : Failure}
    (ha : h.answer (.write name text) = (h', .error f)) : FewerFiles h.tree h'.tree := by
  rcases Host.write_answer ha with ⟨htree, -⟩ | hwrite
  · rw [htree]
    exact .refl _
  · exact GrammarDirectory.fewerFiles_of_write hwrite

/-- A deletion that fails changes no file at all. -/
theorem tree_of_failed_delete {name : String} {f : Failure}
    (ha : h.answer (.delete name) = (h', .error f)) : h'.tree = h.tree := by
  rcases Host.delete_answer ha with ⟨htree, -⟩ | hdelete
  · exact htree
  · exact GrammarDirectory.eq_of_failed_delete hdelete

end Host

namespace Store

variable {s : Store} {e : StoreEntry} {text : String} {h h' : Host} {steps : List Answered}

/-- Nor does removing the files of the store. -/
theorem fewerFiles_removeGenerated {r : Except Failure (List String)}
    (hgo : Goes s.removeGenerated h steps h' r) : FewerFiles h.tree h'.tree := by
  refine goes_induction (P := fun g => FewerFiles h.tree g.tree)
    (C := fun c => ∀ name text, c ≠ .write name text)
    (fun g c hc hg => hg.trans (Host.fewerFiles_of_answer rfl hc)) hgo (.refl _) ?_
  intro a ha name text hcall
  rcases call_of_removeGenerated hgo a ha with hlist | ⟨_, -, hdelete⟩
  · rw [hlist] at hcall
    cases hcall
  · rw [hdelete] at hcall
    cases hcall

/-! ## §2. What a failed publication leaves. -/

/-- No file is where the name of the text leads to. -/
def Lacks (s : Store) (text : String) (t : FileTree) : Prop :=
  ∀ path, s.directory.resolve (s.nameOf text) = .ok path →
    ∀ content, t.get? path ≠ some (.file content)

/-- It could not be found out whether the file is there. -/
def QuestionFails (s : Store) (text : String) (steps : List Answered) : Prop :=
  ∃ f, failedCalls steps = [(.exists (s.nameOf text), f)]

/-- The registry has refused the file, and the file could not be deleted. -/
def DiscardFails (s : Store) (text : String) (steps : List Answered) : Prop :=
  ∃ path f f', [(.register path, f), (.delete (s.nameOf text), f')] <:+ failedCalls steps

theorem Lacks.of_fewerFiles {t u : FileTree} (hlacks : s.Lacks text t) (hfewer : FewerFiles t u) :
    s.Lacks text u :=
  fun path hp content hfile => hlacks path hp content (hfewer path content hfile)

/-- A file that is not there is not found. -/
theorem Lacks.not_found (hlacks : s.Lacks text h.tree) (hserves : s.Serves h) {path : Path}
    (hp : s.directory.resolve (s.nameOf text) = .ok path) :
    h.answer (.exists (s.nameOf text)) ≠ (h', .ok true) := by
  intro hex
  obtain ⟨hfile, -⟩ := Host.exists_answer_ok hex
  rw [hserves.directory] at hfile
  obtain ⟨content, hget⟩ := GrammarDirectory.file_of_hasFile hp hfile
  exact hlacks path hp content hget

/-- A file that is said not to be there is not. -/
theorem lacks_of_not_found (hserves : s.Serves h)
    (hex : h.answer (.exists (s.nameOf text)) = (h', .ok false)) : s.Lacks text h'.tree := by
  intro path hp content
  obtain ⟨hfile, htree⟩ := Host.exists_answer_ok hex
  rw [hserves.directory] at hfile
  rw [htree]
  exact GrammarDirectory.no_file_of_hasFile hserves.grounded hp hfile content

/-- A file that has been deleted is not there. -/
theorem lacks_of_deleted (hserves : s.Serves h)
    (hdel : h.answer (.delete (s.nameOf text)) = (h', .ok ())) : s.Lacks text h'.tree := by
  intro path hp content hfile
  rcases Host.delete_answer hdel with ⟨-, _, hbad⟩ | hdelete
  · cases hbad
  · rw [hserves.directory] at hdelete
    rw [GrammarDirectory.get?_of_delete hserves.grounded.get?_of_noEntry hp hdelete] at hfile
    cases hfile

/-- A file that has been written is there, and holds the text. -/
theorem file_of_written (hserves : s.Serves h) {path : Path}
    (hp : s.directory.resolve (s.nameOf text) = .ok path)
    (hwrite : h.answer (.write (s.nameOf text) text) = (h', .ok ())) :
    h'.tree.get? path = some (.file text) := by
  rcases Host.write_answer hwrite with ⟨-, _, hbad⟩ | hwritten
  · cases hbad
  · rw [hserves.directory] at hwritten
    rcases GrammarDirectory.write_cases hp hwritten with ⟨-, hw⟩ | ⟨⟨_, hbad⟩, -⟩
    · exact hw.written
    · cases hbad

/-- A replacement that fails leaves no file, unless it cannot delete the one that was refused. -/
theorem replacement_lacks {path : Path} {f : Failure} (hserves : s.Serves h)
    (hp : s.directory.resolve (s.nameOf text) = .ok path) (hlacks : s.Lacks text h.tree)
    (hgo : s.Replacement ⟨Digest.ofText text, s.nameOf text, path⟩ text h steps h' (.error f)) :
    s.Lacks text h'.tree ∨
      s.DiscardFails text steps ∧ h'.tree.get? path = some (.file text) := by
  have hunreg : ∀ {g : Host} {q : Except Failure Unit},
      h.answer (.unregister s.scopeName) = (g, q) → s.Lacks text g.tree :=
    fun ha => hlacks.of_fewerFiles (Host.fewerFiles_of_answer ha (by simp))
  cases hgo with
  | kept hun => exact .inl (hunreg hun)
  | uncleared hun hclear =>
    exact .inl ((hunreg hun).of_fewerFiles (fewerFiles_removeGenerated hclear))
  | unwritten hun hclear hwrite =>
    have hclean := (hunreg hun).of_fewerFiles (fewerFiles_removeGenerated hclear)
    exact .inl (hclean.of_fewerFiles (Host.fewerFiles_of_failed_write hwrite))
  | @unregistered mid clean written refused _ cleared names f f' q hun hclear hwrite hreg hdel =>
    have hclean := (hserves.answer hun).goes hclear
    cases q with
    | ok => exact .inl (lacks_of_deleted ((hclean.answer hwrite).answer hreg) hdel)
    | error f'' =>
      refine .inr ⟨⟨path, f, f'', ?_⟩, ?_⟩
      · -- The last two calls are the ones that failed.
        rw [← List.cons_append, failedCalls_append]
        exact List.suffix_append _ _
      · rw [Host.tree_of_failed_delete hdel, Host.tree_of_answer rfl hreg]
        exact file_of_written hclean hp hwrite

/-- A publication that fails leaves no file of its text, unless it has changed nothing, or has left
the file that the registry refused. -/
theorem publish_lacks {f : Failure} (hserves : s.Serves h)
    (hgo : Goes (s.publish text) h steps h' (.error f)) :
    s.Lacks text h'.tree ∨ (s.QuestionFails text steps ∧ h'.tree = h.tree) ∨
      s.DiscardFails text steps ∧ ∃ path, s.directory.resolve (s.nameOf text) = .ok path ∧
        h'.tree.get? path = some (.file text) := by
  cases hp : s.directory.resolve (s.nameOf text) with
  | error f' =>
    -- The name leads nowhere, so there is no file.
    left
    intro path hp'
    rw [hp] at hp'
    cases hp'
  | ok path =>
    cases goes_publish (entry_of_resolve hp) hgo with
    | unknown hex => exact .inr (.inl ⟨⟨_, rfl⟩, Host.tree_of_answer rfl hex⟩)
    | failed hex hrep =>
      rcases replacement_lacks (hserves.answer hex) hp (lacks_of_not_found hserves hex) hrep with
        hlacks | ⟨hdiscard, hfile⟩
      · exact .inl hlacks
      · exact .inr (.inr ⟨hdiscard, path, rfl, hfile⟩)

/-! ## §3. The next attempts. -/

/-- If the file is not there, a publication that returns has written and registered it. -/
theorem Lacks.renewed {name : String} (hlacks : s.Lacks text h.tree) (hserves : s.Serves h)
    (hgo : Goes (s.publish text) h steps h' (.ok name)) :
    name = s.nameOf text ∧ ∃ path g, s.directory.resolve name = .ok path ∧
      [⟨.write name text, none, g⟩, ⟨.register path, none, h'⟩] <:+ steps ∧
        h'.tree.get? path = some (.file text) := by
  cases hp : s.directory.resolve (s.nameOf text) with
  | error f => cases (goes_publish_error (entry_of_unresolved hp) hgo).2.2
  | ok path =>
    cases goes_publish (entry_of_resolve hp) hgo with
    | found hex => exact absurd hex (hlacks.not_found hserves hp)
    | replaced hex hrep =>
      cases hrep with
      | @done mid clean written _ cleared names hun hclear hwrite hreg =>
        have hclean := ((hserves.answer hex).answer hun).goes hclear
        refine ⟨rfl, path, written, hp, ?_, ?_⟩
        · rw [← List.cons_append, ← List.cons_append]
          exact List.suffix_append _ _
        · rw [Host.tree_of_answer rfl hreg]
          exact file_of_written hclean hp hwrite

/-- An attempt that came to an end with a failure. -/
theorem goes_of_failed {limit : Option Nat} {f : Failure}
    (hresult : (s.carry h ⟨.publish text, limit⟩).result = some (.error f)) :
    Goes (s.publish text) h (s.carry h ⟨.publish text, limit⟩).steps
      (s.carry h ⟨.publish text, limit⟩).host (.error f) := by
  rcases s.carry_cases h ⟨.publish text, limit⟩ with ⟨r, hr, hgo⟩ | ⟨_, _, _, _, hbroken, -⟩
  · obtain ⟨q, hpub, rfl⟩ := goes_work_publish.1 hgo
    rw [hr] at hresult
    cases q with
    | ok name => cases hresult
    | error f' =>
      cases hresult
      exact hpub
  · rw [hbroken] at hresult
    cases hresult

/-- After some attempts that failed the file is not there, if one of them has found out that it was
not, and none has failed to delete it. -/
theorem lacks_of_attempts (hserves : s.Serves h) {n : Nat}
    (hfail : ∀ o ∈ s.history h (List.replicate n ⟨.publish text, none⟩),
      (∃ f, o.result = some (.error f)) ∧ ¬ s.DiscardFails text o.steps)
    (hasked : ∃ o ∈ s.history h (List.replicate n ⟨.publish text, none⟩),
      ¬ s.QuestionFails text o.steps) :
    s.Lacks text (s.hostAfter h (List.replicate n ⟨.publish text, none⟩)).tree := by
  -- From the last attempt backwards: it leaves no file, or leaves all as it was.
  induction n with
  | zero =>
    obtain ⟨o, ho, -⟩ := hasked
    cases ho
  | succ n ih =>
    rw [List.replicate_succ'] at hfail hasked ⊢
    rw [history_concat] at hfail hasked
    rw [hostAfter_concat]
    rw [List.forall_mem_append, List.forall_mem_singleton] at hfail
    obtain ⟨hbefore, ⟨f, hresult⟩, hdiscard⟩ := hfail
    rcases publish_lacks (hserves.hostAfter _) (goes_of_failed hresult) with
      hlacks | ⟨hquestion, htree⟩ | hbad
    · exact hlacks
    · rw [htree]
      refine ih hbefore ?_
      obtain ⟨o, ho, hno⟩ := hasked
      rcases List.mem_append.1 ho with ho | ho
      · exact ⟨o, ho, hno⟩
      · rw [List.mem_singleton.1 ho] at hno
        exact absurd hquestion hno
    · exact absurd hbad.1 hdiscard

/-- **A publication that fails does not make the next one a no-op.**  The host has the directory of
the store, in a tree that is grounded; which calls fail, and how often, is left open.  A call that
fails gives an error for its answer.  A task that is broken off inside a call has no result and is
not among these attempts: if it is broken off at the registration, the file that it has written
stays.

A publication that fails leaves no file where the name of the text leads to, with two exceptions:
it was not told whether the file is there, and then it has changed nothing; or it could not delete
the file that the registry had refused, and then that file is there.

After some attempts that failed, none of them in the second way and not all in the first, a
publication that returns has written the text and then registered the path of its file, as its last
two calls, and the file is there. -/
theorem retry_publishes (s : Store) (h : Host) (hdir : h.directory = s.directory)
    (hg : h.tree.IsGrounded) (text : String) :
    (∀ steps h' f, Goes (s.publish text) h steps h' (.error f) →
      s.Lacks text h'.tree ∨ (s.QuestionFails text steps ∧ h'.tree = h.tree) ∨
        s.DiscardFails text steps ∧ ∃ path, s.directory.resolve (s.nameOf text) = .ok path ∧
          h'.tree.get? path = some (.file text)) ∧
    ∀ n, let attempts := s.history h (List.replicate n ⟨.publish text, none⟩)
      (∀ o ∈ attempts, (∃ f, o.result = some (.error f)) ∧ ¬ s.DiscardFails text o.steps) →
      (∃ o ∈ attempts, ¬ s.QuestionFails text o.steps) →
      ∀ steps h' name,
        Goes (s.publish text) (s.hostAfter h (List.replicate n ⟨.publish text, none⟩)) steps h'
            (.ok name) →
          name = s.nameOf text ∧ ∃ path g, s.directory.resolve name = .ok path ∧
            [⟨.write name text, none, g⟩, ⟨.register path, none, h'⟩] <:+ steps ∧
              h'.tree.get? path = some (.file text) := by
  have hserves : s.Serves h := ⟨hdir, hg⟩
  refine ⟨fun steps h' f hgo => publish_lacks hserves hgo, ?_⟩
  intro n attempts hfail hasked steps h' name hgo
  exact (lacks_of_attempts hserves hfail hasked).renewed (hserves.hostAfter _) hgo

/-- A host whose registry refuses the first two files. -/
def fussyHost : Host :=
  sampleHost.plan .register (.after 0 (some 2) fun _ => .host ⟨false, "RuntimeError", "busy"⟩)

/-- The third attempt writes the file once more, and registers it. -/
theorem retry_publishes_third :
    ∃ steps h' path g,
      Goes (sampleStore.publish "A")
          (sampleStore.hostAfter fussyHost (List.replicate 2 ⟨.publish "A", none⟩)) steps h'
          (.ok (sampleStore.nameOf "A")) ∧
        [⟨.write (sampleStore.nameOf "A") "A", none, g⟩, ⟨.register path, none, h'⟩] <:+ steps := by
  obtain ⟨-, hnext⟩ := retry_publishes sampleStore fussyHost rfl
    (by unfold FileTree.IsGrounded; decide) "A"
  -- Both times the registration is all that fails.
  have hrefused : ∀ o ∈ sampleStore.history fussyHost (List.replicate 2 ⟨.publish "A", none⟩),
      o.result.map Except.isOk = some false ∧ failedCalls o.steps =
        [(.register (sampleStore.ownEntry "A").path, .host ⟨false, "RuntimeError", "busy"⟩)] := by
    decide +kernel
  have hfailed : ∀ o ∈ sampleStore.history fussyHost (List.replicate 2 ⟨.publish "A", none⟩),
      (∃ f, o.result = some (.error f)) ∧ ¬ sampleStore.DiscardFails "A" o.steps := by
    intro o ho
    obtain ⟨hfailed, hcalls⟩ := hrefused o ho
    constructor
    · obtain ⟨r, hr, hok⟩ := Option.map_eq_some_iff.1 hfailed
      cases r with
      | ok name => cases hok
      | error f => exact ⟨f, hr⟩
    · rintro ⟨path, f, f', hlast⟩
      rw [hcalls] at hlast
      simpa using hlast.length_le
  have hasked : ∃ o ∈ sampleStore.history fussyHost (List.replicate 2 ⟨.publish "A", none⟩),
      ¬ sampleStore.QuestionFails "A" o.steps := by
    refine ⟨_, List.mem_cons_self, ?_⟩
    rintro ⟨f, hcalls⟩
    rw [(hrefused _ List.mem_cons_self).2] at hcalls
    cases hcalls
  have hgo := goes_course (sampleStore.publish "A") (sampleStore.hostAfter fussyHost
    (List.replicate 2 ⟨.publish "A", none⟩))
  have hresult : ((sampleStore.publish "A").run.course (sampleStore.hostAfter fussyHost
      (List.replicate 2 ⟨.publish "A", none⟩))).result = .ok (sampleStore.nameOf "A") := by
    decide +kernel
  rw [hresult] at hgo
  obtain ⟨-, path, g, -, hlast, -⟩ := hnext 2 hfailed hasked _ _ _ hgo
  exact ⟨_, _, path, g, hgo, hlast⟩

end Store

end QuasiGrammar
