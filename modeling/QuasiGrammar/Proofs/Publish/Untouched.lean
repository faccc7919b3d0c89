import QuasiGrammar.Proofs.Files.Frame
import QuasiGrammar.Proofs.Publish.Handover

/-
  QuasiGrammar.Proofs.Publish.Untouched
  ─────────────────────────────────────
  **A publication touches nothing but the files with generated names.**

      IsOwn     the calls that the publication of a text may make: of the calls that
                change files, deletions of generated names and the write of the text
      Touches   what such calls change, however many they are

  Each call of a publication is one of those (`isOwn_publish`), and each of those
  changes no more than that (`touches_answer`).  So it holds wherever a
  publication stops.  If it stops because it is done, the file of the text is all
  that is left of the files with generated names (`publish_touches_generated`).
-/

namespace QuasiGrammar

open Work FileTree

namespace Store

variable {s : Store} {text : String} {t u v : FileTree} {h h' : Host} {steps : List Answered}

/-! ## §1. What may change. -/

/-- The call changes no file, or it deletes a generated name, or it writes the file of the text. -/
def IsOwn (s : Store) (text : String) : Call → Prop
  | .delete name => s.isGenerated name = true
  | .write name content => name = s.nameOf text ∧ content = text
  | .exists _ | .list | .unregister _ | .register _ => True

/-- Between two trees, nothing has changed but entries with generated names, and that the directory
is there; and an entry with a generated name has been there before, or it is the file of the
text. -/
structure Touches (s : Store) (text : String) (t u : FileTree) : Prop where
  others : ∀ q, s.owns q = false → u.get? q = t.get? q ∨
    q.names <+: s.directory.root.names ∧ t.get? q = none ∧ u.get? q = some .directory
  slots : ∀ q e, s.owns q = true → u.get? q = some e →
    t.get? q = some e ∨ q = s.pathTo (s.nameOf text) ∧ e = .file text

theorem Touches.refl (s : Store) (text : String) (t : FileTree) : s.Touches text t t :=
  ⟨fun _ _ => .inl rfl, fun _ _ _ hget => .inl hget⟩

theorem Touches.trans (h₁ : s.Touches text t u) (h₂ : s.Touches text u v) : s.Touches text t v := by
  constructor
  · intro q hq
    rcases h₂.others q hq with hsame | ⟨habove, hnone, hdir⟩
    · rw [hsame]
      exact h₁.others q hq
    · -- What has only now been made was not there before.
      rcases h₁.others q hq with hsame | ⟨-, -, hdir'⟩
      · exact .inr ⟨habove, hsame.symm.trans hnone, hdir⟩
      · rw [hnone] at hdir'
        cases hdir'
  · intro q e hq hget
    rcases h₂.slots q e hq hget with hold | hown
    · exact h₁.slots q e hq hold
    · exact .inr hown

/-- Directories on the way to the directory may be made. -/
theorem touches_makesWay (hway : MakesWay s.directory.root t u) : s.Touches text t u := by
  constructor
  · exact fun q _ => hway q
  · intro q e hq hget
    rcases hway q with hsame | ⟨habove, -, -⟩
    · exact .inl (hsame.symm.trans hget)
    · rw [owns_of_above habove] at hq
      cases hq

theorem touches_write (hs : s.HasPlainPrefix) {r : Except Failure Unit}
    (hw : s.directory.write t (s.nameOf text) text = (u, r)) : s.Touches text t u := by
  have hgen := s.isGenerated_nameOf text
  rcases GrammarDirectory.write_cases (resolve_generated hs hgen) hw with ⟨-, hwrites⟩ | ⟨-, hway⟩
  · have hothers := hwrites.others
    simp only [pathTo, Path.parent_child] at hothers
    constructor
    · intro q hq
      refine hothers q ?_
      rintro rfl
      rw [show s.owns (s.directory.root.child (s.nameOf text)) = true from owns_pathTo hgen] at hq
      cases hq
    · intro q e hq hget
      by_cases hown : q = s.pathTo (s.nameOf text)
      · subst hown
        exact .inr ⟨rfl, Option.some.inj (hget.symm.trans hwrites.written)⟩
      · rcases hothers q hown with hsame | ⟨habove, -, -⟩
        · exact .inl (hsame.symm.trans hget)
        · rw [owns_of_above habove] at hq
          cases hq
  · rw [pathTo, Path.parent_child] at hway
    exact touches_makesWay hway

theorem touches_delete (hs : s.HasPlainPrefix) {name : String} (hgen : s.isGenerated name = true)
    {r : Except Failure Unit} (hd : s.directory.delete t name = (u, r)) : s.Touches text t u := by
  rcases GrammarDirectory.delete_cases (resolve_generated hs hgen) hd with rfl | ⟨-, -, rfl⟩
  · exact .refl s text u
  · have hroot : s.pathTo name ≠ .root := Path.child_ne_root _ _
    constructor
    · intro q hq
      refine .inl (get?_erase_of_ne t ?_)
      rintro rfl
      rw [owns_pathTo hgen] at hq
      cases hq
    · intro q e _ hget
      by_cases hq : q = s.pathTo name
      · rw [hq, get?_erase_self t hroot] at hget
        cases hget
      · rw [get?_erase_of_ne t hq] at hget
        exact .inl hget

/-! ## §2. Every call. -/

theorem touches_answer (hs : s.HasPlainPrefix) (hdir : h.directory = s.directory) {c : Call}
    (hc : s.IsOwn text c) {r : Except Failure c.Answer} (ha : h.answer c = (h', r)) :
    s.Touches text h.tree h'.tree := by
  cases c with
  | write name content =>
    obtain ⟨rfl, rfl⟩ := hc
    rcases Host.write_answer ha with ⟨htree, -⟩ | hw
    · rw [htree]
      exact .refl _ _ _
    · rw [hdir] at hw
      exact touches_write hs hw
  | delete name =>
    rcases Host.delete_answer ha with ⟨htree, -⟩ | hd
    · rw [htree]
      exact .refl _ _ _
    · rw [hdir] at hd
      exact touches_delete hs hc hd
  | «exists» | list | unregister | register =>
    rw [Host.tree_of_answer rfl ha]
    exact .refl _ _ _

/-- The calls of the procedure are all own ones, and so is the deletion after it. -/
theorem isOwn_of_procedure {names : List String} {c : Call}
    (hc : c ∈ s.procedure text names ++ [.delete (s.nameOf text)]) : s.IsOwn text c := by
  have hgen := s.isGenerated_nameOf text
  simp only [procedure, preparation, List.cons_append, List.mem_cons, List.mem_append,
    List.mem_map, List.mem_filter, List.not_mem_nil, or_false] at hc
  rcases hc with rfl | rfl | rfl | ((⟨name, ⟨-, hname⟩, rfl⟩ | rfl) | rfl) | rfl
  · trivial
  · trivial
  · trivial
  · exact hname
  · exact ⟨rfl, rfl⟩
  · trivial
  · exact hgen

theorem isOwn_publish (hs : s.HasPlainPrefix) {r : Except Failure String}
    (hgo : Goes (s.publish text) h steps h' r) : ∀ a ∈ steps, s.IsOwn text a.call := by
  intro a ha
  have hcalls := (s.publish text).run.callsIn_talk h
  rw [show (s.publish text).run.course h = ⟨steps, h', r⟩ from hgo] at hcalls
  have hmem : a.call ∈ callsIn ((s.publish text).run.talk h) := by
    rw [hcalls]
    exact List.mem_map_of_mem ha
  obtain ⟨names, -, ⟨hpre, -⟩ | ⟨hall, -⟩⟩ :=
    (talks_publish hs (Program.talks_talk (s.publish text).run h)).keepsOrder.order
  · exact isOwn_of_procedure (List.mem_append_left _ (hpre.subset hmem))
  · exact isOwn_of_procedure (hall ▸ hmem)

/-- Wherever a publication stops, it has changed no more. -/
theorem carry_touches (hs : s.HasPlainPrefix) (hdir : h.directory = s.directory)
    (limit : Option Nat) :
    s.Touches text h.tree (s.carry h ⟨.publish text, limit⟩).host.tree := by
  have hkept := carry_induction (s := s) (e := ⟨.publish text, limit⟩)
    (P := fun g => g.directory = s.directory ∧ s.Touches text h.tree g.tree) (C := s.IsOwn text)
    (fun g c hc hg => ⟨(g.directory_answer c).trans hg.1,
      hg.2.trans (touches_answer hs hg.1 hc rfl)⟩)
    ⟨hdir, .refl s text h.tree⟩
  refine (hkept ?_).2
  obtain ⟨q, hgo, -⟩ := goes_work_publish.1 (goes_course (s.work (.publish text)) h)
  exact isOwn_publish hs hgo

/-! ## §3. A publication that returns. -/

/-- A replacement that succeeds fills the slot of the text, and it is the only one. -/
theorem slots_replaced (hs : s.HasPlainPrefix) (hserves : s.Serves h)
    (hgo : s.Replacement (s.ownEntry text) text h steps h' (.ok ())) :
    s.slots h'.tree = [(s.pathTo (s.nameOf text), .file text)] := by
  cases hgo with
  | done hun hclear hwrite hreg =>
    have hmid := hserves.answer hun
    obtain ⟨hclean, hnil⟩ := slots_of_cleared hs hmid.directory hmid.grounded hclear
    rw [Host.tree_of_answer rfl hreg]
    exact (write_holdsOne hs hclean hnil (List.mem_singleton_self text) hwrite).2 rfl

/-- The only slot holds the only entry with a generated name. -/
theorem get?_eq_some_iff_of_slots {name : String} {e : Entry} (hgen : s.isGenerated name = true)
    (hslots : s.slots t = [(s.pathTo name, e)]) (q : Path) (e' : Entry) (hq : s.owns q = true) :
    t.get? q = some e' ↔ q = s.pathTo name ∧ e' = e := by
  constructor
  · intro hget
    obtain ⟨name', hgen', rfl⟩ := owns_iff.1 hq
    have hmem := mem_slots_of_get? hgen' hget
    rw [hslots, List.mem_singleton] at hmem
    exact Prod.mk.inj hmem
  · rintro ⟨rfl, rfl⟩
    exact get?_of_slots_singleton hgen hslots

/-- **A publication touches only generated files.**  The prefix of the store is plain; the host has
its directory, in any state.  Whichever calls fail and wherever the publication breaks off:

- What has no generated name in the directory is as it was, all but the directory itself and those
  above it, which are made if they were missing.
- An entry with a generated name was there before, with the same content, or it is the file of the
  text, and holds the text.
- If the publication returns, then it has found its file and changed nothing, or the file was not
  there, and now the file of the text is the one entry with a generated name. -/
theorem publish_touches_generated (s : Store) (hs : s.HasPlainPrefix) (h : Host)
    (hdir : h.directory = s.directory) (hg : h.tree.IsGrounded) (text : String)
    (limit : Option Nat) :
    let o := s.carry h ⟨.publish text, limit⟩
    (∀ q, s.owns q = false → o.host.tree.get? q = h.tree.get? q ∨
      q.names <+: s.directory.root.names ∧ h.tree.get? q = none ∧
        o.host.tree.get? q = some .directory) ∧
    (∀ q e, s.owns q = true → o.host.tree.get? q = some e →
      h.tree.get? q = some e ∨ q = s.pathTo (s.nameOf text) ∧ e = .file text) ∧
    ∀ name, o.result = some (.ok (some name)) →
      (s.directory.hasFile h.tree name = .ok true ∧ o.host.tree = h.tree) ∨
        s.directory.hasFile h.tree name = .ok false ∧
          ∀ q e, s.owns q = true →
            (o.host.tree.get? q = some e ↔ q = s.pathTo name ∧ e = .file text) := by
  intro o
  have htouches : s.Touches text h.tree o.host.tree := carry_touches hs hdir limit
  refine ⟨htouches.others, htouches.slots, ?_⟩
  intro name hname
  obtain ⟨e, he, rfl, hpub⟩ := publication_of_returned hname
  cases he.symm.trans (entry_eq hs text)
  rw [← hdir]
  generalize (s.carry h ⟨.publish text, limit⟩).host = last at hpub ⊢
  generalize (s.carry h ⟨.publish text, limit⟩).steps = steps at hpub
  cases hpub with
  | found hex =>
    obtain ⟨hfile, htree⟩ := Host.exists_answer_ok hex
    exact .inl ⟨hfile, htree⟩
  | replaced hex hrep =>
    have hserves : s.Serves h := ⟨hdir, hg⟩
    exact .inr ⟨(Host.exists_answer_ok hex).1, get?_eq_some_iff_of_slots (s.isGenerated_nameOf text)
      (slots_replaced hs (hserves.answer hex) hrep)⟩

/-- A name that begins like that of an older text, and goes on. -/
def backupName : String := sampleStore.nameOf "old" ++ ".bak"

/-- A host with a file of that name in the directory. -/
def sharedHost : Host :=
  .calm ⟨[(⟨["grammars"]⟩, .directory), (sampleStore.pathTo backupName, .file "old")]⟩
    sampleStore.directory

/-- The backup stays, and the new file is the only one with a generated name. -/
theorem publish_touches_generated_shared :
    let t := (sampleStore.carry sharedHost ⟨.publish "new", none⟩).host.tree
    t.get? (sampleStore.pathTo backupName) = some (.file "old") ∧
      ∀ q, sampleStore.owns q = true →
        (t.get? q ≠ none ↔ q = sampleStore.pathTo (sampleStore.nameOf "new")) := by
  intro t
  obtain ⟨hothers, -, hreturned⟩ := publish_touches_generated sampleStore ⟨by decide, by decide⟩
    sharedHost rfl (by unfold FileTree.IsGrounded; decide +kernel) "new" none
  constructor
  · rcases hothers (sampleStore.pathTo backupName) (by decide +kernel) with hsame | ⟨habove, -, -⟩
    · exact hsame.trans (by decide +kernel)
    · exact absurd habove (child_not_above _ _)
  · rcases hreturned (sampleStore.nameOf "new") (by decide +kernel) with ⟨hfound, -⟩ | ⟨-, honly⟩
    · exact absurd hfound (by decide +kernel)
    · intro q hq
      rw [Option.ne_none_iff_exists']
      constructor
      · rintro ⟨e, he⟩
        exact ((honly q e hq).1 he).1
      · intro hnew
        exact ⟨.file "new", (honly q _ hq).2 ⟨hnew, rfl⟩⟩

end Store

end QuasiGrammar
