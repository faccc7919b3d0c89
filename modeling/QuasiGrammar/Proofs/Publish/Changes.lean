import Mathlib.Data.List.Destutter
import QuasiGrammar.Proofs.Publish.Faultless
import QuasiGrammar.Proofs.Publish.Order

/-
  QuasiGrammar.Proofs.Publish.Changes
  ───────────────────────────────────
  **If no call fails, the registry is called once for every change of the text.**

  One text after another is published.  The directory holds the last one at any
  time and no other (`Holds`), so the next one is found just if it is the same
  (`Holds.publish`): a publication that finds its file does nothing else, and
  any other renews the grammar and announces it.  Over a list of texts these are
  its changes, which are the texts without repetitions in a row.

  On a host without faults no call fails (`Published.noneFails`).
-/

namespace QuasiGrammar

open Text Work

/-! ## §1. One text after another. -/

/-- A text that was published: the dialogue, the host afterwards and the result. -/
structure Publishing where
  talk : List Exchange
  host : Host
  result : Except Failure String

/-- No call fails. -/
def NoneFails (ps : List Publishing) : Prop :=
  ∀ p ∈ ps, ∀ c f, .asked c (.error f) ∉ p.talk

/-- The path that a call registers. -/
def Call.registered? : Call → Option Path
  | .register path => some path
  | _ => none

namespace Store

/-- Publishes a text. -/
def publishOnce (s : Store) (h : Host) (text : String) : Publishing :=
  ⟨(s.publish text).run.talk h, ((s.publish text).run.course h).host,
    ((s.publish text).run.course h).result⟩

/-- Publishes one text after another. -/
def publishEach (s : Store) (h : Host) : List String → List Publishing
  | [] => []
  | text :: rest => s.publishOnce h text :: s.publishEach (s.publishOnce h text).host rest

/-- The texts that differ from the one before, where the first one comes after `last`. -/
def changes (last : Option String) : List String → List String
  | [] => []
  | text :: rest =>
      if last = some text then changes (some text) rest else text :: changes (some text) rest

theorem destutter'_eq_changes (text : String) (texts : List String) :
    texts.destutter' (· ≠ ·) text = text :: changes (some text) texts := by
  induction texts generalizing text with
  | nil => rfl
  | cons next rest ih =>
    rw [List.destutter'_cons, changes, ih, ih]
    by_cases h : text = next
    · subst h
      rw [if_neg (by simp), if_pos rfl]
    · rw [if_pos h, if_neg (by simpa using h)]

/-- The changes of a list are its texts without repetitions in a row. -/
theorem changes_none (texts : List String) : changes none texts = texts.destutter (· ≠ ·) := by
  cases texts with
  | nil => rfl
  | cons text rest =>
    rw [List.destutter_cons', destutter'_eq_changes, changes, if_neg (by simp)]

variable {s : Store} {last : Option String} {text : String} {h : Host}

/-! ## §2. What the directory holds. -/

/-- The directory holds the file of a text and no other, or none at all. -/
structure Holds (s : Store) (last : Option String) (h : Host) : Prop where
  directory : h.directory = s.directory
  rooted : s.IsRooted h.tree
  slots : s.slots h.tree = last.toList.map fun t => (s.pathTo (s.nameOf t), .file t)

theorem Holds.of_none (hdir : h.directory = s.directory) (hnone : s.generatedNames h.tree = []) :
    s.Holds none h :=
  ⟨hdir, .inl (slots_eq_nil hnone), slots_eq_nil hnone⟩

theorem Holds.holdsOne (hold : s.Holds last h) (texts : List String)
    (hmem : ∀ t, last = some t → t ∈ texts) : s.HoldsOne texts h := by
  refine ⟨hold.directory, hold.rooted, ?_⟩
  cases last with
  | none => exact .inl hold.slots
  | some t => exact .inr ⟨t, hmem t rfl, hold.slots⟩

/-- The file that is held is found. -/
theorem Holds.found (hs : s.HasPlainPrefix) (hold : s.Holds (some text) h) {b : Bool}
    (hfile : s.directory.hasFile h.tree (s.nameOf text) = .ok b) : b = true := by
  have hgen := s.isGenerated_nameOf text
  have hslots : s.slots h.tree = [(s.pathTo (s.nameOf text), .file text)] := hold.slots
  have hget := get?_of_slots_singleton hgen hslots
  have hdir : h.tree.locate s.directory.root = .ok (some .directory) := by
    rcases hold.rooted with hnil | hdir
    · rw [hnil] at hslots
      cases hslots
    · exact hdir
  have hlocate : h.tree.locate (s.pathTo (s.nameOf text)) = .ok (some (.file text)) ∨
      h.tree.locate (s.pathTo (s.nameOf text)) = .error .nameTooLong :=
    hget ▸ FileTree.locate_child_cases (s.nameOf text) hdir
  unfold GrammarDirectory.hasFile at hfile
  rw [resolve_generated hs hgen] at hfile
  rcases hlocate with hl | hl
  · simp only [FileTree.look, hl] at hfile
    exact (Except.ok.inj hfile).symm
  · -- Only the length of its name could keep it from being found, and then nothing is answered.
    simp [FileTree.look, hl, GrammarDirectory.meansAbsent] at hfile

/-! ## §3. One publication. -/

/-- A preparation that is completed has had no failures. -/
theorem Prepares.none_failed {names : List String} {front : List Exchange}
    (hfront : s.Prepares text names front true) (c : Call) (f : Failure) :
    .asked c (.error f) ∉ front := by
  intro hmem
  obtain ⟨before, after, rfl⟩ := List.append_of_mem hmem
  cases (hfront.inTurn.eq_nil_of_failed rfl).2

/-- What a publication comes to after another one if none of its calls fails: the file is found if
the text is the same, and else the grammar is renewed and announced. -/
structure Follows (s : Store) (last : Option String) (text : String) (p : Publishing) : Prop where
  result : p.result = .ok (s.nameOf text)
  holds : s.Holds (some text) p.host
  same : last = some text → p.talk = [.asked (.exists (s.nameOf text)) (.ok true)]
  other : last ≠ some text → ∃ names front, s.Prepares text names front true ∧
    p.talk = front ++ [.asked (.register (s.pathTo (s.nameOf text))) (.ok ()),
      .told (s.announcement (s.ownEntry text))]

/-- A publication that finds its file, which is that of the last text. -/
theorem Holds.follows_found (hs : s.HasPlainPrefix) (hold : s.Holds last h)
    (hdigest : ∀ t, last = some t → Digest.ofText t = Digest.ofText text → t = text) {h' : Host}
    (hex : h.answer (.exists (s.nameOf text)) = (h', .ok true)) :
    s.Follows last text
      ⟨[.asked (.exists (s.nameOf text)) (.ok true)], h', .ok (s.nameOf text)⟩ := by
  obtain ⟨hfile, htree⟩ := Host.exists_answer_ok hex
  rw [hold.directory] at hfile
  obtain ⟨content, hmem⟩ := hasFile_eq_ok hs (s.isGenerated_nameOf text) hfile
  rw [hold.slots] at hmem
  obtain ⟨t, ht, hslot⟩ := List.mem_map.1 hmem
  obtain rfl := Option.mem_toList.1 ht
  -- A file of that name holds a text with the same digest, so it is the same text.
  obtain rfl := hdigest t rfl (digest_of_nameOf (Path.child_inj.1 (Prod.mk.inj hslot).1))
  refine ⟨rfl, ⟨(Host.directory_of_answer hex).trans hold.directory, ?_, ?_⟩, fun _ => rfl,
    fun hne => absurd rfl hne⟩
  · rw [htree]
    exact hold.rooted
  · rw [htree]
    exact hold.slots

/-- A publication that renews the grammar, where another text was held. -/
theorem Holds.follows_renewed (hs : s.HasPlainPrefix) (hold : s.Holds last h) {mid h' : Host}
    {rest : List Answered} {names : List String} {front : List Exchange}
    (hfront : s.Prepares text names front true)
    (hex : h.answer (.exists (s.nameOf text)) = (mid, .ok false))
    (hrep : s.Replacement (s.ownEntry text) text mid rest h' (.ok ())) :
    s.Follows last text ⟨front ++ [.asked (.register (s.pathTo (s.nameOf text))) (.ok ()),
      .told (s.announcement (s.ownEntry text))], h', .ok (s.nameOf text)⟩ := by
  obtain ⟨hfile, htree⟩ := Host.exists_answer_ok hex
  rw [hold.directory] at hfile
  have hmid : s.Holds last mid := by
    refine ⟨(Host.directory_of_answer hex).trans hold.directory, ?_, ?_⟩
    · rw [htree]
      exact hold.rooted
    · rw [htree]
      exact hold.slots
  obtain ⟨hsteps, hslots⟩ := replacement_holdsOne hs
    (hmid.holdsOne (text :: last.toList) fun t ht => by simp [ht]) List.mem_cons_self hrep
  -- The last call of a replacement that succeeds is the registration.
  have hend : s.HoldsOne (text :: last.toList) h' := by
    rcases registryCalls_replacement hrep with ⟨⟨_, hbad⟩, -⟩ | ⟨-, before, rfl, -⟩
    · cases hbad
    · exact hsteps _ (List.mem_append_right _ (List.mem_singleton_self _))
  refine ⟨rfl, ⟨hend.directory, hend.rooted, hslots rfl⟩, ?_, fun _ => ⟨names, front, hfront, rfl⟩⟩
  rintro rfl
  cases hold.found hs hfile

theorem Holds.publish (hs : s.HasPlainPrefix) (hold : s.Holds last h)
    (hdigest : ∀ t, last = some t → Digest.ofText t = Digest.ofText text → t = text)
    (hcalls : ∀ c f, .asked c (.error f) ∉ (s.publishOnce h text).talk) :
    s.Follows last text (s.publishOnce h text) := by
  have htalk : s.Publishes text _ _ := talks_publish hs ((s.publish text).run.talks_talk h)
  have hgo := goes_publish (entry_eq hs text) (goes_course (s.publish text) h)
  have hsame := (s.publish text).run.callsIn_talk h
  unfold publishOnce at hcalls ⊢
  generalize (s.publish text).run.talk h = talk at htalk hsame hcalls ⊢
  generalize (s.publish text).run.course h = course at htalk hgo hsame ⊢
  obtain ⟨steps, h', r⟩ := course
  dsimp only at htalk hgo hsame hcalls ⊢
  cases htalk with
  | found =>
    cases hgo with
    | found hex => exact hold.follows_found hs hdigest hex
    | replaced hex hrep =>
      cases hrep
      simp at hsame
  | stopped f hfront hn =>
    obtain ⟨c, f', hmem⟩ := hfront.inTurn.exists_failed
    exact absurd (List.mem_append_left _ hmem) (hcalls c f')
  | refused f f' q hfront hn =>
    exact absurd (List.mem_append_right _ List.mem_cons_self) (hcalls (.register _) f)
  | published hfront =>
    cases hgo with
    | found hex =>
      rw [callsIn_append, hfront.inTurn.callsIn_eq] at hsame
      simp [preparation] at hsame
    | replaced hex hrep => exact hold.follows_renewed hs hfront hex hrep

/-! ## §4. What it shows. -/

/-- Of the calls of a preparation only the removal goes to the registry. -/
theorem registry_preparation (s : Store) (text : String) (names : List String) :
    (s.preparation text names).filter Call.goesToRegistry = [.unregister s.scopeName] := by
  have hdeleted :
      ((names.filter s.isGenerated).map Call.delete).filter Call.goesToRegistry = [] := by
    rw [List.filter_eq_nil_iff]
    intro c hc
    obtain ⟨name, -, rfl⟩ := List.mem_map.1 hc
    exact Bool.false_ne_true
  have hwrite : [Call.write (s.nameOf text) text].filter Call.goesToRegistry = [] := rfl
  rw [preparation, List.filter_cons_of_neg Bool.false_ne_true, List.filter_cons_of_pos rfl,
    List.filter_cons_of_neg Bool.false_ne_true, List.filter_append, hdeleted, hwrite]
  rfl

/-- A preparation tells nothing. -/
theorem Prepares.noticesIn_eq_nil {names : List String} {front : List Exchange} {ok : Bool}
    (hfront : s.Prepares text names front ok) : noticesIn front = [] := by
  refine List.filterMap_eq_nil_iff.2 fun x hx => ?_
  cases x with
  | asked c answer => rfl
  | told n => exact absurd hx (hfront.inTurn.told_notMem n)

namespace Follows

variable {p : Publishing}

/-- The registry is called just if the text is another one. -/
theorem registry (hp : s.Follows last text p) :
    (callsIn p.talk).filter Call.goesToRegistry = s.renewal last text := by
  unfold renewal
  by_cases hsame : last = some text
  · rw [if_pos hsame, hp.same hsame]
    rfl
  · obtain ⟨names, front, hfront, htalk⟩ := hp.other hsame
    rw [if_neg hsame, htalk, callsIn_append, hfront.inTurn.callsIn_eq, List.filter_append,
      registry_preparation]
    rfl

/-- And just then the user is told, of the new file. -/
theorem notices (hp : s.Follows last text p) :
    noticesIn p.talk =
      if last = some text then [] else [s.announcement (s.ownEntry text)] := by
  by_cases hsame : last = some text
  · rw [if_pos hsame, hp.same hsame]
    rfl
  · obtain ⟨names, front, hfront, htalk⟩ := hp.other hsame
    rw [if_neg hsame, htalk, noticesIn_append, hfront.noticesIn_eq_nil]
    rfl

end Follows

/-! ## §5. Many publications. -/

/-- What is published after one text comes to its changes. -/
structure LoadsChanges (s : Store) (last : Option String) (texts : List String) (h : Host)
    (ps : List Publishing) : Prop where
  results : ps.map (·.result) = texts.map fun t => .ok (s.nameOf t)
  registry : (ps.flatMap fun p => callsIn p.talk).filter Call.goesToRegistry =
    (changes last texts).flatMap fun t =>
      [.unregister s.scopeName, .register (s.pathTo (s.nameOf t))]
  notices : (ps.flatMap fun p => noticesIn p.talk) =
    (changes last texts).map fun t => s.announcement (s.ownEntry t)
  /-- A text that comes after itself is only looked for. -/
  repeated : ∀ (i : Nat) (t : String), (last :: texts.map some)[i]? = some (some t) →
    texts[i]? = some t →
      ∃ p : Publishing, ps[i]? = some p ∧ p.talk = [.asked (.exists (s.nameOf t)) (.ok true)]
  holds : s.Holds (texts.getLast?.or last) ((ps.getLast?.map (·.host)).getD h)

theorem Holds.loadsChanges (hs : s.HasPlainPrefix) (texts : List String) (hold : s.Holds last h)
    (hdigest : ∀ t ∈ last.toList ++ texts, ∀ u ∈ last.toList ++ texts,
      Digest.ofText t = Digest.ofText u → t = u)
    (hcalls : NoneFails (s.publishEach h texts)) :
    s.LoadsChanges last texts h (s.publishEach h texts) := by
  induction texts generalizing last h with
  | nil =>
    refine ⟨rfl, rfl, rfl, fun i t _ hbad => ?_, hold⟩
    simp at hbad
  | cons text rest ih =>
    rw [publishEach, NoneFails, List.forall_mem_cons] at hcalls
    have hp : s.Follows last text (s.publishOnce h text) := by
      refine hold.publish hs (fun t ht => ?_) hcalls.1
      exact hdigest t (by simp [ht]) text (by simp)
    have hrest := ih hp.holds (fun t ht u hu => hdigest t (by simp_all) u (by simp_all)) hcalls.2
    rw [publishEach]
    constructor
    · rw [List.map_cons, List.map_cons, hp.result, hrest.results]
    · rw [List.flatMap_cons, List.filter_append, hp.registry, hrest.registry, renewal, changes]
      by_cases hsame : last = some text
      · rw [if_pos hsame, if_pos hsame]
        rfl
      · rw [if_neg hsame, if_neg hsame]
        rfl
    · rw [List.flatMap_cons, hp.notices, hrest.notices, changes]
      by_cases hsame : last = some text
      · rw [if_pos hsame, if_pos hsame]
        rfl
      · rw [if_neg hsame, if_neg hsame]
        rfl
    · intro i t hbefore hnow
      cases i with
      | zero =>
        simp only [List.getElem?_cons_zero, Option.some.injEq] at hbefore hnow
        subst hnow
        exact ⟨_, rfl, hp.same hbefore⟩
      | succ i => exact hrest.repeated i t hbefore hnow
    · have hholds := hrest.holds
      rw [List.getLast?_cons, List.getLast?_cons]
      -- The last of the texts that follow, or this one if none follows.
      have hlast : rest.getLast?.or (some text) = some (rest.getLast?.getD text) := by
        cases rest.getLast? <;> rfl
      have hhost : ∀ o : Option Publishing,
          (o.map (·.host)).getD (s.publishOnce h text).host =
            (o.getD (s.publishOnce h text)).host := by
        rintro (_ | p) <;> rfl
      rw [hlast, hhost] at hholds
      exact hholds

/-! ## §6. Hosts without faults. -/

theorem Publishes.none_failed {talk : List Exchange} {name : String}
    (htalk : s.Publishes text talk (.ok name)) (c : Call) (f : Failure) :
    .asked c (.error f) ∉ talk := by
  intro hmem
  cases htalk with
  | found => cases List.mem_singleton.1 hmem
  | published hfront =>
    rcases List.mem_append.1 hmem with hmem | hmem
    · exact hfront.none_failed c f hmem
    · rcases List.mem_cons.1 hmem with hbad | hbad
      · cases hbad
      · cases List.mem_singleton.1 hbad

/-- On a host without faults, whose directory has an open way and room for the names, no call of
the publications fails. -/
theorem Published.noneFails (hs : s.HasPlainPrefix) (hroom : s.HasRoom) (texts : List String)
    (hpub : s.Published last h)
    (hdigest : ∀ t ∈ last.toList ++ texts, ∀ u ∈ last.toList ++ texts,
      Digest.ofText t = Digest.ofText u → t = u) : NoneFails (s.publishEach h texts) := by
  induction texts generalizing last h with
  | nil => exact fun _ hp => nomatch hp
  | cons text rest ih =>
    obtain ⟨hok, hnext, -⟩ := hpub.publish hs hroom
      (fun t ht => hdigest t (by simp [ht]) text (by simp)) (goes_course (s.publish text) h)
    have htalk : s.Publishes text _ _ := talks_publish hs ((s.publish text).run.talks_talk h)
    rw [hok] at htalk
    rw [publishEach, NoneFails, List.forall_mem_cons]
    exact ⟨htalk.none_failed, ih hnext fun t ht u hu => hdigest t (by simp_all) u (by simp_all)⟩

/-! ## §7. All texts. -/

/-- The paths that are registered can be read off the calls of the registry. -/
theorem registered_of_registry {calls : List Call} {texts : List String}
    (h : calls.filter Call.goesToRegistry = texts.flatMap fun t =>
      [.unregister s.scopeName, .register (s.pathTo (s.nameOf t))]) :
    calls.filterMap Call.registered? = texts.map fun t => s.pathTo (s.nameOf t) := by
  have hfilter : calls.filterMap Call.registered? =
      (calls.filter Call.goesToRegistry).filterMap Call.registered? := by
    rw [List.filterMap_filter]
    refine List.filterMap_congr fun c _ => ?_
    cases c <;> rfl
  rw [hfilter, h, List.filterMap_flatMap, List.map_eq_flatMap]
  rfl

/-- **Without failures the registry is called once for every change.**  The prefix of the store is
plain, its directory has no generated names at first, texts with the same digest are the same, and
no call fails.  Then every publication returns the name of its file; the paths that are registered
are those of the texts without repetitions in a row; each registration comes right after a removal,
and those are all calls of the registry; the user is told of each new file, and of nothing else; a
text that comes after itself is only looked for; and in the end the directory holds the file of the
last text, with that text, and no other. -/
theorem publishEach_loads_changes (s : Store) (hs : s.HasPlainPrefix) (h : Host)
    (hdir : h.directory = s.directory) (hnone : s.generatedNames h.tree = []) (texts : List String)
    (hdigest : ∀ t ∈ texts, ∀ u ∈ texts, Digest.ofText t = Digest.ofText u → t = u)
    (hcalls : NoneFails (s.publishEach h texts)) :
    ((s.publishEach h texts).map (·.result) =
        texts.map fun t => .ok (s.filenameFor (Digest.ofText t))) ∧
      ((s.publishEach h texts).flatMap fun p => callsIn p.talk).filterMap Call.registered? =
        (texts.destutter (· ≠ ·)).map (fun t => s.pathTo (s.nameOf t)) ∧
      ((s.publishEach h texts).flatMap fun p => callsIn p.talk).filter Call.goesToRegistry =
        (texts.destutter (· ≠ ·)).flatMap (fun t =>
          [.unregister s.scopeName, .register (s.pathTo (s.nameOf t))]) ∧
      ((s.publishEach h texts).flatMap fun p => noticesIn p.talk) =
        (texts.destutter (· ≠ ·)).map (fun t => s.announcement (s.ownEntry t)) ∧
      (∀ (i : Nat) (t : String), texts[i]? = some t → texts[i + 1]? = some t →
        ∃ p : Publishing, (s.publishEach h texts)[i + 1]? = some p ∧
          p.talk = [.asked (.exists (s.nameOf t)) (.ok true)]) ∧
      ∀ t, texts.getLast? = some t →
        ∃ p : Publishing, (s.publishEach h texts).getLast? = some p ∧
          s.generatedNames p.host.tree = [s.nameOf t] ∧
          p.host.tree.get? (s.pathTo (s.nameOf t)) = some (.file t) := by
  have hloads := (Holds.of_none hdir hnone).loadsChanges hs texts (by simpa using hdigest) hcalls
  rw [← changes_none]
  refine ⟨hloads.results, registered_of_registry hloads.registry, hloads.registry, hloads.notices,
    fun i t hi hnext => hloads.repeated (i + 1) t (by simp [hi]) hnext, fun t ht => ?_⟩
  have hholds := hloads.holds
  cases hp : (s.publishEach h texts).getLast? with
  | none =>
    have hempty := hloads.results
    rw [List.getLast?_eq_none_iff.1 hp, List.map_nil, eq_comm, List.map_eq_nil_iff] at hempty
    rw [hempty] at ht
    cases ht
  | some p =>
    rw [ht, hp] at hholds
    exact ⟨p, rfl, generatedNames_singleton hholds.slots,
      get?_of_slots_singleton (s.isGenerated_nameOf t) hholds.slots⟩

/-- The text that was published before the last one is published again when it comes back. -/
theorem publishEach_loads_changes_back :
    NoneFails (sampleStore.publishEach sampleHost ["A", "A", "B", "A"]) ∧
      ((sampleStore.publishEach sampleHost ["A", "A", "B", "A"]).flatMap fun p =>
          callsIn p.talk).filterMap Call.registered? =
        ["A", "B", "A"].map fun t => sampleStore.pathTo (sampleStore.nameOf t) := by
  have hs : sampleStore.HasPlainPrefix := ⟨by decide, by decide⟩
  have hdigest : ∀ t ∈ ["A", "A", "B", "A"], ∀ u ∈ ["A", "A", "B", "A"],
      Digest.ofText t = Digest.ofText u → t = u := by
    decide +kernel
  have hopen : sampleHost.tree.OpenTo sampleStore.directory.root :=
    FileTree.openTo_of_directories _ (by decide) (by decide) (by decide)
  have hpub : sampleStore.Published none sampleHost :=
    ⟨rfl, fun _ => rfl, hopen, .inl (by decide +kernel), by decide +kernel⟩
  have hcalls : NoneFails (sampleStore.publishEach sampleHost ["A", "A", "B", "A"]) :=
    hpub.noneFails hs ⟨by decide, by decide⟩ _ hdigest
  obtain ⟨-, hloads, -⟩ := publishEach_loads_changes sampleStore hs sampleHost rfl
    (by decide +kernel) _ hdigest hcalls
  have hchanges : ["A", "A", "B", "A"].destutter (· ≠ ·) = ["A", "B", "A"] := by decide
  exact ⟨hcalls, hloads.trans (congrArg _ hchanges)⟩

end Store

end QuasiGrammar
