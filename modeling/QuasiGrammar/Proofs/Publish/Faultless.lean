import QuasiGrammar.Proofs.Files.Access
import QuasiGrammar.Proofs.Publish.Registration

/-
  QuasiGrammar.Proofs.Publish.Faultless
  ─────────────────────────────────────
  **Without faults a publication always succeeds.**

  On a host on which no call is planned to fail, and whose directory has an
  open way, every call of a publication takes effect.  The directory then holds
  the text that was published last and no other (`Published`), and the registry
  is called just if the text is another one than before
  (`published_of_publish`).
-/

namespace QuasiGrammar

open Text Work

/-! ## §1. Hosts without faults. -/

namespace Host

/-- No call is planned to fail. -/
def IsClear (h : Host) : Prop := ∀ point, h.faults point = .clear

variable {h h' : Host}

theorem passed_of_isClear (hclear : h.IsClear) (point : FaultPoint) : h.passed point = h := by
  have hfaults : (fun q => if q = point then (h.faults point).next.2 else h.faults q) =
      h.faults := by
    funext q
    by_cases hq : q = point
    · rw [if_pos hq, hq, hclear point]
      rfl
    · rw [if_neg hq]
  unfold passed plan
  rw [hfaults]

theorem failure?_of_isClear (hclear : h.IsClear) (point : FaultPoint) (p : Path) :
    h.failure? point p = none := by
  unfold failure?
  rw [hclear point]
  rfl

/-- Every call takes effect. -/
theorem answer_of_isClear (hclear : h.IsClear) (c : Call) :
    h.answer c = (h.settled c.point).perform c := by
  unfold answer
  rw [failure?_of_isClear hclear]

/-- The answer to a deletion is that of the directory. -/
theorem delete_of_isClear (hclear : h.IsClear) {name : String} {r : Except Failure Unit}
    (ha : h.answer (.delete name) = (h', r)) : h.directory.delete h.tree name = (h'.tree, r) := by
  rw [answer_of_isClear hclear] at ha
  simp only [perform, Prod.mk.injEq] at ha
  rw [← ha.1, ← ha.2]
  rfl

/-- The answer to a write is that of the directory. -/
theorem write_of_isClear (hclear : h.IsClear) {name text : String} {r : Except Failure Unit}
    (ha : h.answer (.write name text) = (h', r)) :
    h.directory.write h.tree name text = (h'.tree, r) := by
  rw [answer_of_isClear hclear] at ha
  simp only [perform, Prod.mk.injEq] at ha
  rw [← ha.1, ← ha.2]
  rfl

theorem isClear_answer (hclear : h.IsClear) (c : Call) : (h.answer c).1.IsClear := by
  have hsettled : (h.settled c.point).IsClear := by
    unfold settled
    rw [passed_of_isClear hclear]
    exact hclear
  rw [answer_of_isClear hclear]
  cases c <;> exact hsettled

end Host

/-! ## §2. Names that fit. -/

theorem utf8Size_of_isDigestDigit {c : Char} (h : isDigestDigit c = true) : c.utf8Size = 1 := by
  rw [Char.utf8Size_eq_one_iff]
  unfold isDigestDigit Char.isDigit at h
  simp only [Bool.or_eq_true, Bool.and_eq_true, decide_eq_true_eq] at h
  rcases h with h | h
  · have hle : c.val ≤ '9'.val := by simpa using h.2
    exact UInt32.le_trans hle (by decide)
  · have hle : c.val ≤ 'f'.val := h.2
    exact UInt32.le_trans hle (by decide)

/-- The path of a name is as long as that of the name before it, and what is added to it. -/
theorem Path.utf8Length_text_child_append (p : Path) (name more : String) :
    utf8Length (p.child (name ++ more)).text = utf8Length (p.child name).text + utf8Length more := by
  unfold utf8Length text child
  -- A slash stands before the name unless nothing is in front of it.
  rcases List.eq_nil_or_concat p.names with h | ⟨ns, n, h⟩
  · rw [h]
    simp only [List.nil_append, String.intercalate_singleton, String.utf8ByteSize_append]
    omega
  · have hne : p.names ≠ [] := by
      rw [h]
      simp
    rw [String.intercalate_append_of_ne_nil hne (by simp),
      String.intercalate_append_of_ne_nil hne (by simp)]
    simp only [String.utf8ByteSize_append, String.intercalate_singleton]
    omega

namespace Store

/-- The names of the files, and their paths, are not too long: seventy octets follow the prefix. -/
structure HasRoom (s : Store) : Prop where
  name : utf8Length s.filePrefix + 70 ≤ FileTree.maxNameLength
  path : utf8Length (s.directory.root.child s.filePrefix).text + 70 ≤ FileTree.maxPathLength

variable {s : Store} {text : String} {h h' mid : Host} {steps : List Answered}

theorem utf8Length_digest (text : String) : utf8Length ("-" ++ Digest.ofText text ++ fileSuffix) = 70 := by
  obtain ⟨hlen, hall⟩ := digest_digits text
  have hdigest : (Digest.ofText text).utf8ByteSize = 64 := by
    have hascii := utf8ByteSize_ofList_of_ascii fun c hc =>
      utf8Size_of_isDigestDigit (List.all_eq_true.1 hall c hc)
    rw [String.ofList_toList, hlen] at hascii
    exact hascii
  unfold utf8Length
  rw [String.utf8ByteSize_append, String.utf8ByteSize_append, hdigest]
  rfl

theorem HasRoom.fits (hs : s.HasPlainPrefix) (hroom : s.HasRoom) (text : String) :
    s.directory.Fits (s.nameOf text) := by
  have hname : s.nameOf text = s.filePrefix ++ ("-" ++ Digest.ofText text ++ fileSuffix) := by
    unfold nameOf filenameFor
    rw [String.append_assoc, String.append_assoc, String.append_assoc]
  have hdigest := utf8Length_digest text
  refine ⟨resolve_generated hs (s.isGenerated_nameOf text), ?_, ?_⟩
  · have hsum : utf8Length (s.nameOf text) = utf8Length s.filePrefix + 70 := by
      rw [hname, ← hdigest]
      exact String.utf8ByteSize_append
    rw [hsum]
    exact hroom.name
  · rw [hname, Path.utf8Length_text_child_append, hdigest]
    exact hroom.path

/-! ## §3. Calls on a clear host. -/

/-- A host without faults, whose directory has an open way, and in it the file of the text that was
published last and no other. -/
structure Published (s : Store) (last : Option String) (h : Host) : Prop where
  directory : h.directory = s.directory
  clear : h.IsClear
  isOpen : h.tree.OpenTo s.directory.root
  rooted : s.IsRooted h.tree
  slots : s.slots h.tree = last.toList.map fun t => (s.pathTo (s.nameOf t), .file t)

variable {last : Option String}

/-- After a call it is enough to look at the files. -/
theorem Published.of_tree (hpub : s.Published last h) {last' : Option String} {c : Call}
    {q : Except Failure c.Answer} (ha : h.answer c = (h', q))
    (hopen : h'.tree.OpenTo s.directory.root) (hrooted : s.IsRooted h'.tree)
    (hslots : s.slots h'.tree = last'.toList.map fun t => (s.pathTo (s.nameOf t), .file t)) :
    s.Published last' h' := by
  have hclear := h.isClear_answer hpub.clear c
  rw [ha] at hclear
  exact ⟨(Host.directory_of_answer ha).trans hpub.directory, hclear, hopen, hrooted, hslots⟩

/-- A call that changes no files keeps what is published. -/
theorem Published.answer (hpub : s.Published last h) {c : Call} (hc : c.changesFiles = false)
    {q : Except Failure c.Answer} (ha : h.answer c = (h', q)) : s.Published last h' := by
  have htree := Host.tree_of_answer hc ha
  apply hpub.of_tree ha
  · rw [htree]
    exact hpub.isOpen
  · rw [htree]
    exact hpub.rooted
  · rw [htree]
    exact hpub.slots

/-- What is in the slot of a text is a file. -/
theorem Published.not_directory (hpub : s.Published last h) (text : String) :
    h.tree.get? (s.pathTo (s.nameOf text)) ≠ some .directory := by
  intro hget
  have hmem := mem_slots_of_get? (s.isGenerated_nameOf text) hget
  rw [hpub.slots] at hmem
  obtain ⟨t, -, ht⟩ := List.mem_map.1 hmem
  cases (Prod.mk.inj ht).2

/-- The question whether the file of a text is there is answered. -/
theorem Published.exists_ok (hs : s.HasPlainPrefix) (hroom : s.HasRoom) (hpub : s.Published last h)
    {q : Except Failure Bool} (ha : h.answer (.exists (s.nameOf text)) = (h', q)) :
    ∃ b, q = .ok b ∧ (b = true ↔ ∃ t, last = some t ∧ s.nameOf t = s.nameOf text) := by
  have hfits := hroom.fits hs text
  obtain rfl : (h.answer (.exists (s.nameOf text))).2 = q := congrArg Prod.snd ha
  rw [Host.answer_of_isClear hpub.clear]
  show ∃ b, h.directory.hasFile h.tree (s.nameOf text) = .ok b ∧ _
  rw [hpub.directory]
  obtain ⟨b, hb⟩ := GrammarDirectory.hasFile_of_open hpub.isOpen hfits
  refine ⟨b, hb, ?_⟩
  constructor
  · rintro rfl
    obtain ⟨content, hmem⟩ := hasFile_eq_ok hs (s.isGenerated_nameOf text) hb
    rw [hpub.slots] at hmem
    obtain ⟨t, ht, he⟩ := List.mem_map.1 hmem
    exact ⟨t, Option.mem_toList.1 ht, Path.child_inj.1 (Prod.mk.inj he).1⟩
  · -- The file has the name that is asked for, and it lies in a directory that is there.
    rintro ⟨t, rfl, hname⟩
    have hslots : s.slots h.tree = [(s.pathTo (s.nameOf t), .file t)] := hpub.slots
    have hget := get?_of_slots_singleton (s.isGenerated_nameOf t) hslots
    have hdir : h.tree.locate s.directory.root = .ok (some .directory) := by
      rcases hpub.rooted with hnil | hdir
      · rw [hnil] at hslots
        cases hslots
      · exact hdir
    rw [hname] at hget
    have htrue := GrammarDirectory.hasFile_of_file hdir hfits hget
    exact Except.ok.inj (hb.symm.trans htrue)

theorem Published.list_ok (hpub : s.Published last h) {q : Except Failure (List String)}
    (ha : h.answer .list = (h', q)) : ∃ names, q = .ok names := by
  obtain rfl : (h.answer .list).2 = q := congrArg Prod.snd ha
  rw [Host.answer_of_isClear hpub.clear]
  show ∃ names, h.directory.list h.tree = .ok names
  rw [hpub.directory]
  exact GrammarDirectory.list_of_open hpub.isOpen

/-- The only file can be deleted, and nothing is left then. -/
theorem Published.delete_ok (hs : s.HasPlainPrefix) (hroom : s.HasRoom) {t : String}
    (hpub : s.Published (some t) h) {q : Except Failure Unit}
    (ha : h.answer (.delete (s.nameOf t)) = (h', q)) : q = .ok () ∧ s.Published none h' := by
  have hdel := Host.delete_of_isClear hpub.clear ha
  rw [hpub.directory] at hdel
  obtain ⟨hok, hopen⟩ := GrammarDirectory.delete_of_open hpub.isOpen (hroom.fits hs t)
    (hpub.not_directory t)
  rw [hdel] at hok hopen
  obtain rfl : q = .ok () := hok
  obtain ⟨htree, hgone⟩ := delete_slot hs (s.isGenerated_nameOf t) hdel
  have hslots : s.slots h.tree = [(s.pathTo (s.nameOf t), .file t)] := hpub.slots
  have hnil : s.slots h'.tree = [] := by
    refine List.eq_nil_iff_forall_not_mem.2 fun e he => ?_
    have hne := hgone rfl hpub.rooted e he
    have hmem : e ∈ s.slots h.tree := by
      rcases htree with htree | htree
      · rw [htree] at he
        exact he
      · rw [htree, slots_erase] at he
        exact (List.mem_filter.1 he).1
    rw [hslots] at hmem
    rw [List.mem_singleton.1 hmem] at hne
    exact hne rfl
  exact ⟨rfl, hpub.of_tree ha hopen (.inl hnil) hnil⟩

/-- A file can be written when there is none. -/
theorem Published.write_ok (hs : s.HasPlainPrefix) (hroom : s.HasRoom) (hpub : s.Published none h)
    {q : Except Failure Unit} (ha : h.answer (.write (s.nameOf text) text) = (h', q)) :
    q = .ok () ∧ s.Published (some text) h' := by
  have hgen := s.isGenerated_nameOf text
  have hnil : s.slots h.tree = [] := hpub.slots
  have hwrite := Host.write_of_isClear hpub.clear ha
  rw [hpub.directory] at hwrite
  have hfree : (h.tree.ensureDir s.directory.root).1.get? (s.pathTo (s.nameOf text)) ≠
      some .directory := by
    intro hget
    have hmem := mem_slots_of_get? hgen hget
    rw [slots_ensureDir, hnil] at hmem
    cases hmem
  obtain ⟨hok, hopen⟩ := GrammarDirectory.write_of_open hpub.isOpen (hroom.fits hs text) hfree text
  rw [hwrite] at hok hopen
  obtain rfl : q = .ok () := hok
  rcases write_slot hs hgen hwrite with ⟨-, hslots, hthere⟩ | ⟨⟨f, hbad⟩, -⟩
  · rw [hnil] at hslots
    exact ⟨rfl, hpub.of_tree ha hopen (.inr hthere) hslots⟩
  · cases hbad

/-- The registry refuses nothing. -/
theorem Published.registry_ok (hpub : s.Published last h) {c : Call}
    (hc : c = .unregister s.scopeName ∨ ∃ path, c = .register path) {q : Except Failure c.Answer}
    (ha : h.answer c = (h', q)) : (∃ a, q = .ok a) ∧ s.Published last h' := by
  obtain rfl : (h.answer c).2 = q := congrArg Prod.snd ha
  rcases hc with rfl | ⟨path, rfl⟩
  · refine ⟨?_, hpub.answer rfl ha⟩
    rw [Host.answer_of_isClear hpub.clear]
    exact ⟨(), rfl⟩
  · refine ⟨?_, hpub.answer rfl ha⟩
    rw [Host.answer_of_isClear hpub.clear]
    exact ⟨(), rfl⟩

/-! ## §4. Publishing on a clear host. -/

/-- The files are removed. -/
theorem Published.removeGenerated (hs : s.HasPlainPrefix) (hroom : s.HasRoom)
    (hpub : s.Published last h) {r : Except Failure (List String)}
    (hgo : Goes s.removeGenerated h steps h' r) : (∃ names, r = .ok names) ∧ s.Published none h' := by
  rcases goes_removeGenerated hgo with ⟨f, ha, -, -⟩ | ⟨names, mid, after, q, ha, hdel, rfl, -⟩
  · obtain ⟨names, hbad⟩ := hpub.list_ok ha
    cases hbad
  · have hmid := hpub.answer rfl ha
    have hlisted : h.directory.list h.tree = .ok names := (Host.list_answer_ok ha).1
    rw [hpub.directory] at hlisted
    rw [list_eq_ok hpub.rooted hlisted] at hdel ⊢
    -- There is one file at most.
    cases last with
    | none =>
      rw [generatedNames_eq_nil hpub.slots] at hdel
      obtain ⟨-, rfl, rfl⟩ := goes_pure.1 hdel
      exact ⟨⟨_, rfl⟩, hmid⟩
    | some t =>
      rw [generatedNames_singleton hpub.slots] at hdel
      rcases goes_deleteAll_cons hdel with ⟨f, hd, -, -⟩ | ⟨_, rest, hd, hnil, -⟩
      · cases (hmid.delete_ok hs hroom hd).1
      · obtain ⟨-, rfl, rfl⟩ := goes_pure.1 hnil
        exact ⟨⟨_, rfl⟩, (hmid.delete_ok hs hroom hd).2⟩

/-- The calls of the registry when a text is published after another one: there are none if it is
the same. -/
def renewal (s : Store) (last : Option String) (text : String) : List Call :=
  if last = some text then []
  else [.unregister s.scopeName, .register (s.pathTo (s.nameOf text))]

theorem Published.replacement (hs : s.HasPlainPrefix) (hroom : s.HasRoom)
    (hpub : s.Published last h) {r : Except Failure Unit}
    (hgo : s.Replacement (s.ownEntry text) text h steps h' r) :
    r = .ok () ∧ s.Published (some text) h' ∧
      (steps.map (·.call)).filter Call.goesToRegistry =
        [.unregister s.scopeName, .register (s.pathTo (s.nameOf text))] := by
  cases hgo with
  | kept hun =>
    obtain ⟨⟨_, hbad⟩, -⟩ := hpub.registry_ok (.inl rfl) hun
    cases hbad
  | uncleared hun hclear =>
    have hmid := (hpub.registry_ok (.inl rfl) hun).2
    obtain ⟨⟨names, hbad⟩, -⟩ := hmid.removeGenerated hs hroom hclear
    cases hbad
  | unwritten hun hclear hwrite =>
    have hmid := (hpub.registry_ok (.inl rfl) hun).2
    have hclean := (hmid.removeGenerated hs hroom hclear).2
    cases (hclean.write_ok hs hroom hwrite).1
  | unregistered hun hclear hwrite hregister hdel =>
    have hmid := (hpub.registry_ok (.inl rfl) hun).2
    have hclean := (hmid.removeGenerated hs hroom hclear).2
    have hwritten := (hclean.write_ok hs hroom hwrite).2
    obtain ⟨⟨_, hbad⟩, -⟩ := hwritten.registry_ok (.inr ⟨_, rfl⟩) hregister
    cases hbad
  | @done mid clean written _ cleared names hun hclear hwrite hregister =>
    have hmid := (hpub.registry_ok (.inl rfl) hun).2
    have hclean := (hmid.removeGenerated hs hroom hclear).2
    have hwritten := (hclean.write_ok hs hroom hwrite).2
    refine ⟨rfl, (hwritten.registry_ok (.inr ⟨_, rfl⟩) hregister).2, ?_⟩
    have hcleared : (cleared.map (·.call)).filter Call.goesToRegistry = [] := by
      rw [List.filter_eq_nil_iff]
      intro c hc
      obtain ⟨a, ha, rfl⟩ := List.mem_map.1 hc
      rw [goesToRegistry_removeGenerated hclear a ha]
      exact Bool.false_ne_true
    rw [List.map_cons, List.filter_cons_of_pos rfl, List.map_append, List.filter_append, hcleared]
    rfl

/-- The name of a file tells the digest of its text. -/
theorem digest_of_nameOf {t : String} (h : s.nameOf t = s.nameOf text) :
    Digest.ofText t = Digest.ofText text := by
  have hlists := congrArg String.toList h
  unfold nameOf filenameFor at hlists
  -- The names have the prefix and the suffix in common.
  simp only [String.toList_append, List.append_assoc, List.append_cancel_left_eq] at hlists
  exact String.toList_inj.1 (List.append_cancel_right hlists)

/-- **Without faults every publication succeeds.**  The directory then holds the file of the text
and no other, and the registry is called just if another text was published before. -/
theorem Published.publish (hs : s.HasPlainPrefix) (hroom : s.HasRoom) (hpub : s.Published last h)
    (hdigest : ∀ t, last = some t → Digest.ofText t = Digest.ofText text → t = text)
    {r : Except Failure String} (hgo : Goes (s.publish text) h steps h' r) :
    r = .ok (s.nameOf text) ∧ s.Published (some text) h' ∧
      (steps.map (·.call)).filter Call.goesToRegistry = s.renewal last text := by
  unfold renewal
  cases goes_publish (entry_eq hs text) hgo with
  | unknown hex =>
    obtain ⟨b, hbad, -⟩ := hpub.exists_ok hs hroom hex
    cases hbad
  | found hex =>
    obtain ⟨b, hb, hiff⟩ := hpub.exists_ok hs hroom hex
    cases hb
    obtain ⟨t, rfl, hname⟩ := hiff.1 rfl
    -- A file of that name holds a text with the same digest, so it is the same text.
    have hsame := hdigest t rfl (digest_of_nameOf hname)
    subst hsame
    rw [if_pos rfl]
    exact ⟨rfl, hpub.answer rfl hex, rfl⟩
  | failed hex hrep =>
    cases ((hpub.answer rfl hex).replacement hs hroom hrep).1
  | replaced hex hrep =>
    obtain ⟨b, hb, hiff⟩ := hpub.exists_ok hs hroom hex
    cases hb
    have hother : last ≠ some text := by
      rintro rfl
      exact Bool.false_ne_true (hiff.2 ⟨text, rfl, rfl⟩)
    obtain ⟨-, hdone, hcalls⟩ := (hpub.answer rfl hex).replacement hs hroom hrep
    rw [if_neg hother]
    exact ⟨rfl, hdone, hcalls⟩

end Store

end QuasiGrammar
