import Mathlib.Order.Defs.Unbundled

/-!
# Recorded steps

`Leads step ls s s'`: the labels `ls` lead from `s` to `s'`, one step each.

A state that carries a log of the steps taken so far is *recorded* when it moves by
what it writes there: `Recorded step log view may w w'` says that `w'` has the log
of `w` with labels added, all of them allowed by `may`, and that these labels lead
from the view of `w` to the view of `w'`.

* `Leads.within`: a relation every step is within holds of the whole run;
* `Recorded.keeps`: so does an invariant of log and view that every step keeps.

Where the steps are a function, `Along apply ok s es` says that each of `es` meets
the condition `ok` in the state it comes to (`Along.keeps`).
-/

namespace Traces

variable {ι σ τ : Type} {step : ι → σ → σ → Prop} {s s' s'' : σ} {l : ι} {ls ls' : List ι}

inductive Leads (step : ι → σ → σ → Prop) : List ι → σ → σ → Prop where
  | nil (s : σ) : Leads step [] s s
  | cons {l : ι} {ls : List ι} {s s' s'' : σ} (hstep : step l s s') (hrest : Leads step ls s' s'') :
      Leads step (l :: ls) s s''

namespace Leads

theorem single (h : step l s s') : Leads step [l] s s' := .cons h (.nil s')

theorem append (h : Leads step ls s s') (h' : Leads step ls' s' s'') : Leads step (ls ++ ls') s s'' := by
  induction h with
  | nil s => exact h'
  | cons hstep _ ih => exact .cons hstep (ih h')

/-- **Every step is within the relation, so the run is.** -/
theorem within {K : σ → σ → Prop} (hrefl : ∀ s, K s s) (htrans : ∀ s s' s'', K s s' → K s' s'' → K s s'')
    (h : Leads step ls s s') (hK : ∀ l ∈ ls, ∀ s s', step l s s' → K s s') : K s s' := by
  induction h with
  | nil s => exact hrefl s
  | cons hstep _ ih =>
    have hhead := hK _ List.mem_cons_self _ _ hstep
    exact htrans _ _ _ hhead (ih fun l hl => hK l (List.mem_cons_of_mem _ hl))

/-- **An invariant of the past and the state.** -/
theorem keeps {I : List ι → σ → Prop} (h : Leads step ls s s')
    (hI : ∀ l ∈ ls, ∀ past s s', I past s → step l s s' → I (past ++ [l]) s') :
    ∀ {past : List ι}, I past s → I (past ++ ls) s' := by
  induction h with
  | nil s =>
    intro past hs
    rw [List.append_nil]
    exact hs
  | @cons l ls s s' s'' hstep _ ih =>
    intro past hs
    have hhead := hI l List.mem_cons_self past s s' hs hstep
    have hrest := ih (fun l hl => hI l (List.mem_cons_of_mem _ hl)) hhead
    rw [List.append_assoc] at hrest
    exact hrest

end Leads

/-! ## Recorded moves -/

structure Recorded (step : ι → σ → σ → Prop) (log : τ → List ι) (view : τ → σ) (may : ι → Prop)
    (w w' : τ) : Prop where
  intro ::
  exists_steps : ∃ ls, log w' = log w ++ ls ∧ (∀ l ∈ ls, may l) ∧ Leads step ls (view w) (view w')

namespace Recorded

variable {log : τ → List ι} {view : τ → σ} {may may' : ι → Prop} {w w' w'' : τ}

/-- Nothing recorded, nothing changed. -/
theorem silent (hlog : log w' = log w) (hview : view w' = view w) :
    Recorded step log view may w w' := by
  refine ⟨[], ?_, ?_, ?_⟩
  · rw [hlog, List.append_nil]
  · intro l hl
    cases hl
  · rw [hview]
    exact .nil _

theorem one (hlog : log w' = log w ++ [l]) (hmay : may l) (hstep : step l (view w) (view w')) :
    Recorded step log view may w w' := by
  refine ⟨[l], hlog, fun l' hl' => ?_, .single hstep⟩
  rw [List.mem_singleton.mp hl']
  exact hmay

instance : Std.Refl (Recorded step log view may) := ⟨fun _ => silent rfl rfl⟩

theorem trans (h : Recorded step log view may w w') (h' : Recorded step log view may w' w'') :
    Recorded step log view may w w'' := by
  obtain ⟨ls, hlog, hmay, hleads⟩ := h
  obtain ⟨ls', hlog', hmay', hleads'⟩ := h'
  refine ⟨ls ++ ls', ?_, fun l hl => ?_, hleads.append hleads'⟩
  · rw [hlog', hlog, List.append_assoc]
  · exact (List.mem_append.mp hl).elim (hmay l) (hmay' l)

instance : IsTrans τ (Recorded step log view may) := ⟨fun _ _ _ h h' => h.trans h'⟩

theorem mono (h : Recorded step log view may w w') (hmay : ∀ l, may l → may' l) :
    Recorded step log view may' w w' := by
  obtain ⟨ls, hlog, hall, hleads⟩ := h
  exact ⟨ls, hlog, fun l hl => hmay l (hall l hl), hleads⟩

/-- **Every allowed step is within the relation, so the move is.** -/
theorem within {K : σ → σ → Prop} (hrefl : ∀ s, K s s) (htrans : ∀ s s' s'', K s s' → K s' s'' → K s s'')
    (h : Recorded step log view may w w') (hK : ∀ l, may l → ∀ s s', step l s s' → K s s') :
    K (view w) (view w') := by
  obtain ⟨ls, -, hmay, hleads⟩ := h
  exact hleads.within hrefl htrans fun l hl => hK l (hmay l hl)

/-- **An invariant of log and view.** -/
theorem keeps {I : List ι → σ → Prop} (h : Recorded step log view may w w')
    (hI : ∀ l, may l → ∀ past s s', I past s → step l s s' → I (past ++ [l]) s')
    (hw : I (log w) (view w)) : I (log w') (view w') := by
  obtain ⟨ls, hlog, hmay, hleads⟩ := h
  rw [hlog]
  exact hleads.keeps (fun l hl => hI l (hmay l hl)) hw

end Recorded

/-! ## Runs under a condition -/

section

variable {ε : Type} {apply : σ → ε → σ} {ok : σ → ε → Prop}

/-- Each step meets the condition in the state it comes to. -/
def Along (apply : σ → ε → σ) (ok : σ → ε → Prop) : σ → List ε → Prop
  | _, [] => True
  | s, e :: es => ok s e ∧ Along apply ok (apply s e) es

/-- **What every such step keeps, the run keeps.** -/
theorem Along.keeps {I : σ → Prop} (hstep : ∀ s e, ok s e → I s → I (apply s e)) {es : List ε} {s : σ}
    (h : Along apply ok s es) (hs : I s) : I (es.foldl apply s) := by
  induction es generalizing s with
  | nil => exact hs
  | cons e es ih =>
    obtain ⟨hok, hrest⟩ := h
    exact ih hrest (hstep s e hok hs)

end

end Traces
