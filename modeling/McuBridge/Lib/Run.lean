import Mathlib.Data.List.Basic

/-! # Runs of a step function

A system is a function `step : E → S → S`: an event that is not enabled leaves the state alone. `run`
feeds it a list of events, `Along C` says that every step of the run meets `C` in the state before it.

`Steps R Q` is the other direction of detail: one call of a method, taken apart into labelled small steps
whose labels all satisfy `Q`. A method is proved to be such a chain once; every invariant is then proved
against the small steps. -/

namespace Run
variable {S E : Type*} (step : E → S → S)

def run (s : S) : List E → S
  | [] => s
  | e :: es => run (step e s) es

/-- Every step of the run from `s` over the events meets `C`. -/
def Along (C : S → E → Prop) : S → List E → Prop
  | _, [] => True
  | s, e :: es => C s e ∧ Along C (step e s) es

instance decidableAlong (C : S → E → Prop) [∀ s e, Decidable (C s e)] :
    ∀ (s : S) (es : List E), Decidable (Along step C s es)
  | _, [] => inferInstanceAs (Decidable True)
  | s, e :: es =>
    have := decidableAlong C (step e s) es
    inferInstanceAs (Decidable (C s e ∧ Along step C (step e s) es))

variable {step} {C D : S → E → Prop} {s : S} {es : List E}

theorem run_append (s : S) (es fs : List E) : run step s (es ++ fs) = run step (run step s es) fs := by
  induction es generalizing s with
  | nil => rfl
  | cons e es ih => exact ih _

theorem along_append (s : S) (es fs : List E) :
    Along step C s (es ++ fs) ↔ Along step C s es ∧ Along step C (run step s es) fs := by
  induction es generalizing s with
  | nil => simp [Along, run]
  | cons e es ih => simp only [List.cons_append, Along, run, ih, and_assoc]

theorem Along.mono (h : Along step C s es) (hCD : ∀ s e, C s e → D s e) : Along step D s es := by
  induction es generalizing s with
  | nil => trivial
  | cons e es ih => exact ⟨hCD _ _ h.1, ih h.2⟩

theorem Along.and (h : Along step C s es) (h' : Along step D s es) : Along step (fun s e => C s e ∧ D s e) s es := by
  induction es generalizing s with
  | nil => trivial
  | cons e es ih => exact ⟨⟨h.1, h'.1⟩, ih h.2 h'.2⟩

theorem Along.and_mem {D : E → Prop} (h : Along step C s es) (hD : ∀ e ∈ es, D e) :
    Along step (fun s e => C s e ∧ D e) s es := by
  induction es generalizing s with
  | nil => trivial
  | cons e es ih =>
    exact ⟨⟨h.1, hD e (List.mem_cons_self ..)⟩, ih h.2 fun e he => hD e (List.mem_cons_of_mem _ he)⟩

/-- The invariant rule: what every step that meets `C` preserves holds after the run. -/
theorem Along.invariant {I : S → Prop} (hstep : ∀ s e, I s → C s e → I (step e s)) (hs : I s)
    (h : Along step C s es) : I (run step s es) := by
  induction es generalizing s with
  | nil => exact hs
  | cons e es ih => exact ih (hstep s e hs h.1) h.2

/-- What every step from a state of the invariant satisfies holds along the run. -/
theorem Along.of_invariant {I : S → Prop} (hstep : ∀ s e, I s → C s e → I (step e s))
    (hD : ∀ s e, I s → C s e → D s e) (hs : I s) (h : Along step C s es) : Along step D s es := by
  induction es generalizing s with
  | nil => trivial
  | cons e es ih => exact ⟨hD s e hs h.1, ih (hstep s e hs h.1) h.2⟩

theorem along_true (s : S) (es : List E) : Along step (fun _ _ => True) s es := by
  induction es generalizing s with
  | nil => trivial
  | cons e es ih => exact ⟨trivial, ih _⟩

/-- The invariant rule without a condition on the steps. -/
theorem run_invariant {I : S → Prop} (hstep : ∀ s e, I s → I (step e s)) (hs : I s) (es : List E) :
    I (run step s es) :=
  (along_true s es).invariant (fun s e h _ => hstep s e h) hs

/-- What every step ends in, and the start, is what every state reached satisfies. -/
theorem reached_iff {I : S → Prop} (s : S) (es : List E) :
    (∀ pre, pre <+: es → I (run step s pre)) ↔ I s ∧ Along step (fun s e => I (step e s)) s es := by
  induction es generalizing s with
  | nil =>
    simp only [List.prefix_nil, forall_eq, Along, and_true]
    rfl
  | cons e es ih =>
    have h := ih (step e s)
    constructor
    · intro hall
      refine ⟨hall [] List.nil_prefix, h.1 fun pre hpre => ?_⟩
      exact hall (e :: pre) (List.cons_prefix_cons.2 ⟨rfl, hpre⟩)
    · rintro ⟨hs, halong⟩ pre hpre
      cases pre with
      | nil => exact hs
      | cons f pre =>
        obtain ⟨rfl, hrest⟩ := List.cons_prefix_cons.1 hpre
        exact h.2 halong pre hrest

/-- When a step from a state of `J` meets `D` exactly if it meets `C`, and then stays in `J`, all steps of the run meet
`D` exactly if all meet `C`. -/
theorem along_iff_along {J : S → Prop} (hstep : ∀ s e, J s → (D s e ↔ C s e)) (hJ : ∀ s e, J s → C s e → J (step e s))
    (hs : J s) (es : List E) : Along step D s es ↔ Along step C s es := by
  induction es generalizing s with
  | nil => exact Iff.rfl
  | cons e es ih =>
    simp only [Along, hstep s e hs]
    exact and_congr_right fun hC => ih (hJ s e hs hC)

/-- When each step from a state of `J` ends in `I` exactly if it meets `C`, and then stays in `J`, all states reached
are in `I` exactly if all steps meet `C`. -/
theorem reached_iff_along_of {I J : S → Prop} (hstep : ∀ s e, J s → (I (step e s) ↔ C s e))
    (hJ : ∀ s e, J s → C s e → J (step e s)) (hs : I s) (hs' : J s) (es : List E) :
    (∀ pre, pre <+: es → I (run step s pre)) ↔ Along step C s es := by
  rw [reached_iff, and_iff_right hs]
  exact along_iff_along hstep hJ hs' es

/-- When each step from a state of `I` stays in `I` exactly if it meets `C`, so does the run. -/
theorem reached_iff_along {I : S → Prop} (hstep : ∀ s e, I s → (I (step e s) ↔ C s e)) (hs : I s) (es : List E) :
    (∀ pre, pre <+: es → I (run step s pre)) ↔ Along step C s es :=
  reached_iff_along_of hstep (fun s e h hC => (hstep s e h).2 hC) hs hs es

/-! ### Events of a run -/

variable (step) in
/-- Some event of the run from `s` over the events met `P` in the state before it. -/
def Occurs (P : S → E → Prop) (s : S) (es : List E) : Prop :=
  ∃ pre e post, es = pre ++ e :: post ∧ P (run step s pre) e

theorem Occurs.append {P : S → E → Prop} (h : Occurs step P s es) (fs : List E) : Occurs step P s (es ++ fs) := by
  obtain ⟨pre, e, post, rfl, hP⟩ := h
  exact ⟨pre, e, post ++ fs, by rw [List.append_assoc, List.cons_append], hP⟩

theorem Occurs.last {P : S → E → Prop} {e : E} (h : P (run step s es) e) : Occurs step P s (es ++ [e]) :=
  ⟨es, e, [], rfl, h⟩

/-- The invariant rule for a property of the state and of the events before it. -/
theorem history_invariant {I : List E → S → Prop} (hs : I [] s)
    (hstep : ∀ pre e, I pre (run step s pre) → I (pre ++ [e]) (step e (run step s pre))) (es : List E) :
    I es (run step s es) := by
  have hall : ∀ (pre : List E), I pre (run step s pre) → I (pre ++ es) (run step s (pre ++ es)) := by
    induction es with
    | nil =>
      intro pre h
      rwa [List.append_nil]
    | cons e es ih =>
      intro pre h
      have hnext := hstep pre e h
      rw [show step e (run step s pre) = run step s (pre ++ [e]) from (run_append s pre [e]).symm] at hnext
      have hrest := ih (pre ++ [e]) hnext
      rwa [List.append_assoc, List.singleton_append] at hrest
  exact hall [] hs

/-! ### Answers -/

section Answers
variable {T R : Type*}

/-- The answers of a machine that answers each event. -/
def answers (exec : E → S → S × R) : S → List E → List R
  | _, [] => []
  | s, e :: es => (exec e s).2 :: answers exec (exec e s).1 es

/-- The simulation rule: machines that answer alike from related states, and stay related, give the same answers to
every list of events. -/
theorem answers_eq {exec : E → S → S × R} {exec' : E → T → T × R} {rel : S → T → Prop}
    (hstep : ∀ s t e, rel s t → (exec e s).2 = (exec' e t).2 ∧ rel (exec e s).1 (exec' e t).1) {s : S} {t : T}
    (hrel : rel s t) (es : List E) : answers exec s es = answers exec' t es := by
  induction es generalizing s t with
  | nil => rfl
  | cons e es ih =>
    obtain ⟨hans, hnext⟩ := hstep s t e hrel
    rw [answers, answers, hans, ih hnext]

end Answers

/-! ### Refinement -/

/-- The refinement rule: when another machine follows each event with a run that ends in a related state, it follows
each run. -/
theorem follows {T F : Type*} {stepT : F → T → T} {rel : S → T → Prop}
    (hstep : ∀ s t e, rel s t → ∃ fs, rel (step e s) (run stepT t fs)) {t : T} (hrel : rel s t) (es : List E) :
    ∃ fs, rel (run step s es) (run stepT t fs) := by
  induction es generalizing s t with
  | nil => exact ⟨[], hrel⟩
  | cons e es ih =>
    obtain ⟨fs, hnext⟩ := hstep s t e hrel
    obtain ⟨gs, hrest⟩ := ih hnext
    exact ⟨fs ++ gs, by rwa [run_append]⟩

/-! ### Outputs -/

section Outputs
variable {O : Type*}

variable (step) in
/-- What the events of a run put out, in order. -/
def outputs (out : E → S → Option O) : S → List E → List O
  | _, [] => []
  | s, e :: es => (out e s).toList ++ outputs out (step e s) es

end Outputs

end Run

/-- A chain of small steps of `R` whose labels satisfy `Q`. -/
inductive Steps {S L : Type*} (R : L → S → S → Prop) (Q : L → Prop) (s : S) : S → Prop where
  | refl : Steps R Q s s
  | tail {t u : S} {l : L} (h : Steps R Q s t) (hl : Q l) (hstep : R l t u) : Steps R Q s u

namespace Steps
variable {S L : Type*} {R : L → S → S → Prop} {Q Q' : L → Prop} {s t u : S}

theorem single {l : L} (hl : Q l) (h : R l s t) : Steps R Q s t := .tail .refl hl h

theorem trans (h₁ : Steps R Q s t) (h₂ : Steps R Q t u) : Steps R Q s u := by
  induction h₂ with
  | refl => exact h₁
  | tail _ hl hstep ih => exact .tail ih hl hstep

theorem mono (h : Steps R Q s t) (hQ : ∀ l, Q l → Q' l) : Steps R Q' s t := by
  induction h with
  | refl => exact .refl
  | tail _ hl hstep ih => exact .tail ih (hQ _ hl) hstep

theorem invariant {I : S → Prop} (hI : ∀ l s t, Q l → R l s t → I s → I t) (h : Steps R Q s t) (hs : I s) :
    I t := by
  induction h with
  | refl => exact hs
  | tail _ hl hstep ih => exact hI _ _ _ hl hstep ih

end Steps
