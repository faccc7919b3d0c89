import QuasiGrammar.Source.Scene

/-
  QuasiGrammar.Proofs.Source.Scripts
  ──────────────────────────────────
  Callbacks that do what they like with a source, but call nobody themselves:
  only announcements make calls, and they call those who are listed when they
  begin.
-/

namespace QuasiGrammar.Scene

variable {σ : Type} {x : Scene σ}

/-- No script asks for a call. -/
def AskOnly (scripts : List (String × List (List Deed))) : Prop :=
  ∀ p ∈ scripts, ∀ deeds ∈ p.2, ∀ d ∈ deeds, d.isCall = false

theorem AskOnly.takeScript {name : String} {deeds : List Deed}
    {scripts rest : List (String × List (List Deed))} (h : AskOnly scripts)
    (htake : takeScript name scripts = some (deeds, rest)) :
    (∀ d ∈ deeds, d.isCall = false) ∧ AskOnly rest := by
  induction scripts generalizing deeds rest with
  | nil => cases htake
  | cons s more ih =>
    obtain ⟨key, entries⟩ := s
    have hmore : AskOnly more := fun p hp => h p (List.mem_cons_of_mem _ hp)
    have hkeep : ∀ {q : List Deed × List (String × List (List Deed))},
        Scene.takeScript name more = some q →
        (∀ d ∈ q.1, d.isCall = false) ∧ AskOnly ((key, entries) :: q.2) := by
      intro q hq
      obtain ⟨hdeeds, hleft⟩ := ih hmore hq
      refine ⟨hdeeds, List.forall_mem_cons.2 ⟨h _ List.mem_cons_self, hleft⟩⟩
    cases entries with
    | nil =>
      simp only [Scene.takeScript, Option.map_eq_some_iff] at htake
      obtain ⟨q, hq, heq⟩ := htake
      cases heq
      exact hkeep hq
    | cons entry others =>
      simp only [Scene.takeScript] at htake
      split at htake
      · cases htake
        have hfirst := h _ List.mem_cons_self
        exact ⟨hfirst _ List.mem_cons_self,
          List.forall_mem_cons.2 ⟨fun e he => hfirst e (List.mem_cons_of_mem _ he), hmore⟩⟩
      · simp only [Option.map_eq_some_iff] at htake
        obtain ⟨q, hq, heq⟩ := htake
        cases heq
        exact hkeep hq

theorem askOnly_perform (l : Listener σ) (h : AskOnly x.scripts) (d : Deed) :
    AskOnly (perform l d x).2.scripts := by
  cases d with
  | invoke c =>
    cases c with
    | service => exact h
    | host name =>
      simp only [perform]
      cases htake : takeScript name x.scripts with
      | none => exact h
      | some p => exact (h.takeScript htake).2
  | start =>
    simp only [perform]
    cases x.subscription <;> exact h
  | stop =>
    simp only [perform]
    cases x.subscription <;> exact h
  | _ => exact h

/-- **A callback that is not listed is called by no deed that is done now.** -/
theorem count_invoke_perform (l : Listener σ) (hask : AskOnly x.scripts) {c : Callback}
    (hc : c ∉ x.observers.listed) (d : Deed) : (perform l d x).1.count (.invoke c) = 0 := by
  have hlisted : (x.observers.listed.map Deed.invoke).count (.invoke c) = 0 := by
    rw [List.count_eq_zero, List.mem_map]
    rintro ⟨c', hc', heq⟩
    cases heq
    exact hc hc'
  cases d with
  | set rules => exact hlisted
  | announce => exact hlisted
  | invoke c' =>
    cases c' with
    | service => rfl
    | host name =>
      simp only [perform]
      cases htake : takeScript name x.scripts with
      | none => rfl
      | some p =>
        rw [List.count_eq_zero]
        intro hmem
        cases (hask.takeScript htake).1 _ hmem
  | start =>
    simp only [perform]
    cases x.subscription <;> rfl
  | stop =>
    simp only [perform]
    cases x.subscription <;> rfl
  | _ => rfl

end QuasiGrammar.Scene
