import HarnessTraining.Library.StateExcept

/-!
# Two programs side by side

A program and another one, each from a state of its own, are *coupled* if they end alike: both return,
or both raise, and their results and states are related.

A coupling says nothing of a run that is excused.  A state on either side may be lost, and then it
stays lost; and the first program may raise what the second one knows nothing of.

* `Coupled.bind`, `Coupled.tryCatch` — a coupling of the parts is one of the whole.
* `Coupled.results` — what it says of two runs.
-/

set_option autoImplicit false

namespace StateExcept

universe u

variable {σ τ ε δ : Type u}

/-- What a coupling does not speak of. -/
structure Excuses (σ τ ε : Type u) where
  /-- A state of the first program that is lost. -/
  lost : σ → Prop
  /-- A state of the second program that is lost. -/
  lost' : τ → Prop
  /-- What the first program may raise by itself. -/
  escapes : ε → Prop

variable {α β γ κ : Type u} {x : Excuses σ τ ε} {m : Prog σ ε α} {m' : Prog τ δ β}
  {f : α → Prog σ ε γ} {f' : β → Prog τ δ κ} {s : σ} {t : τ}

/-- Both programs return, in `Q`, or both raise, in `E`, unless they are excused. -/
def Coupled (x : Excuses σ τ ε) (m : Prog σ ε α) (m' : Prog τ δ β) (Q : α → σ → β → τ → Prop)
    (E : ε → σ → δ → τ → Prop) (s : σ) (t : τ) : Prop :=
  wp m
    (fun a s' ↦ x.lost s' ∨ wp m' (fun b t' ↦ x.lost' t' ∨ Q a s' b t') (fun _ t' ↦ x.lost' t') t)
    (fun e s' ↦ x.lost s' ∨ x.escapes e ∨
      wp m' (fun _ t' ↦ x.lost' t') (fun d t' ↦ x.lost' t' ∨ E e s' d t') t) s

/-- A lost state stays lost. -/
def Remains (lost : σ → Prop) (m : Prog σ ε α) : Prop := Preserves (fun s s' ↦ lost s → lost s') m

section Remains

variable {lost : σ → Prop}

theorem Remains.run (h : Remains lost m) (hs : lost s) :
    wp m (fun _ s' ↦ lost s') (fun _ s' ↦ lost s') s :=
  wp_mono (h s) (fun _ _ h ↦ h hs) fun _ _ h ↦ h hs

theorem Remains.pure (a : α) : Remains lost (pure a : Prog σ ε α) := Preserves.pure (fun _ ↦ id) a

theorem Remains.throw (e : ε) : Remains lost (throw e : Prog σ ε α) := Preserves.throw (fun _ ↦ id) e

theorem Remains.bind (hm : Remains lost m) (hf : ∀ a, Remains lost (f a)) : Remains lost (m >>= f) :=
  Preserves.bind (fun _ _ _ h h' hs ↦ h' (h hs)) hm hf

theorem Remains.tryCatch {handler : ε → Prog σ ε α} (hm : Remains lost m)
    (hhandler : ∀ e, Remains lost (handler e)) : Remains lost (tryCatch m handler) :=
  Preserves.tryCatch (fun _ _ _ h h' hs ↦ h' (h hs)) hm hhandler

theorem Remains.ite {p : Prop} [Decidable p] {n : Prog σ ε α} (hm : Remains lost m)
    (hn : Remains lost n) : Remains lost (if p then m else n) := by
  split
  · exact hm
  · exact hn

end Remains

variable {Q Q' : α → σ → β → τ → Prop} {R : γ → σ → κ → τ → Prop} {E E' : ε → σ → δ → τ → Prop}

theorem Coupled.pure {a : α} {b : β} (h : Q a s b t) :
    Coupled x (pure a : Prog σ ε α) (pure b : Prog τ δ β) Q E s t :=
  Or.inr (Or.inr h)

theorem Coupled.throw {e : ε} {d : δ} (h : E e s d t) :
    Coupled x (throw e : Prog σ ε α) (throw d : Prog τ δ β) Q E s t :=
  Or.inr (Or.inr (Or.inr h))

theorem Coupled.mono (h : Coupled x m m' Q E s t) (hQ : ∀ a s' b t', Q a s' b t' → Q' a s' b t')
    (hE : ∀ e s' d t', E e s' d t' → E' e s' d t') : Coupled x m m' Q' E' s t := by
  refine wp_mono h (fun a s' ↦ Or.imp_right fun h ↦ ?_) fun e s' ↦ Or.imp_right (Or.imp_right fun h ↦ ?_)
  · exact wp_mono h (fun b t' ↦ Or.imp_right (hQ a s' b t')) fun _ _ h ↦ h
  · exact wp_mono h (fun _ _ h ↦ h) fun d t' ↦ Or.imp_right (hE e s' d t')

/-- A coupling from a state that is lost. -/
theorem Coupled.of_lost (hm : Remains x.lost m) (hs : x.lost s) : Coupled x m m' Q E s t :=
  wp_mono (hm.run hs) (fun _ _ ↦ Or.inl) fun _ _ ↦ Or.inl

theorem Coupled.of_lost' (hm' : Remains x.lost' m') (ht : x.lost' t) : Coupled x m m' Q E s t := by
  have hlost := hm'.run ht
  refine wp_mono wp_exec (fun _ _ _ ↦ Or.inr ?_) fun _ _ _ ↦ Or.inr (Or.inr ?_)
  · exact wp_mono hlost (fun _ _ ↦ Or.inl) fun _ _ h ↦ h
  · exact wp_mono hlost (fun _ _ h ↦ h) fun _ _ ↦ Or.inl

/-- Only the run of the second program counts. -/
theorem Coupled.congr {n : Prog τ δ β} {t' : τ} (h : Coupled x m n Q E s t')
    (heq : exec m' t = exec n t') : Coupled x m m' Q E s t := by
  have hrun : ∀ {P P'}, wp n P P' t' → wp m' P P' t := by
    intro P P' h
    rwa [wp, heq]
  exact wp_mono h (fun _ _ ↦ Or.imp_right hrun) fun _ _ ↦ Or.imp_right (Or.imp_right hrun)

theorem Coupled.bind (h : Coupled x m m' Q E s t)
    (hf : ∀ a s' b t', Q a s' b t' → Coupled x (f a) (f' b) R E s' t')
    (hlost : ∀ a, Remains x.lost (f a)) (hlost' : ∀ b, Remains x.lost' (f' b)) :
    Coupled x (m >>= f) (m' >>= f') R E s t := by
  rw [Coupled, wp_bind]
  refine wp_mono h (fun a s' h ↦ ?_) fun e s' ↦ Or.imp_right (Or.imp_right fun h ↦ ?_)
  · rcases h with hs' | h
    · exact Coupled.of_lost (hlost a) hs'
    rcases hexec : exec m' t with ⟨d | b, t'⟩
    · -- a second program that raises here is lost
      have ht' : x.lost' t' := wp_error (e := d) h hexec
      have heq : exec (m' >>= f') t = exec (MonadExcept.throw d : Prog τ δ κ) t' := by
        rw [exec_bind, hexec]
        rfl
      exact Coupled.congr (.of_lost' (.throw d) ht') heq
    · have heq : exec (m' >>= f') t = exec (f' b) t' := by rw [exec_bind, hexec]
      refine Coupled.congr ?_ heq
      rcases wp_ok (a := b) h hexec with ht' | hQ
      · exact .of_lost' (hlost' b) ht'
      · exact hf a s' b t' hQ
  · rw [wp_bind]
    exact wp_mono h (fun b t' ht' ↦ wp_mono ((hlost' b).run ht') (fun _ _ h ↦ h) fun _ _ ↦ Or.inl)
      fun _ _ h ↦ h

/-- The handlers are coupled, and that of the first program lets pass what escapes. -/
theorem Coupled.tryCatch {handler : ε → Prog σ ε α} {handler' : δ → Prog τ δ β}
    (h : Coupled x m m' Q E s t)
    (hhandler : ∀ e s' d t', E e s' d t' → Coupled x (handler e) (handler' d) Q E' s' t')
    (hescapes : ∀ e, x.escapes e → handler e = MonadExcept.throw e)
    (hlost : ∀ e, Remains x.lost (handler e)) (hlost' : ∀ d, Remains x.lost' (handler' d)) :
    Coupled x (MonadExcept.tryCatch m handler) (MonadExcept.tryCatch m' handler') Q E' s t := by
  rw [Coupled, wp_tryCatch]
  refine wp_mono h (fun a s' ↦ Or.imp_right fun h ↦ ?_) fun e s' h ↦ ?_
  · rw [wp_tryCatch]
    exact wp_mono h (fun _ _ h ↦ h) fun d t' ht' ↦
      wp_mono ((hlost' d).run ht') (fun _ _ ↦ Or.inl) fun _ _ h ↦ h
  rcases h with hs' | he | h
  · exact Coupled.of_lost (hlost e) hs'
  · rw [hescapes e he]
    exact Or.inr (Or.inl he)
  rcases hexec : exec m' t with ⟨d | b, t'⟩
  · have heq : exec (MonadExcept.tryCatch m' handler') t = exec (handler' d) t' := by
      rw [exec_tryCatch, hexec]
    refine Coupled.congr ?_ heq
    rcases wp_error (e := d) h hexec with ht' | hE
    · exact .of_lost' (hlost' d) ht'
    · exact hhandler e s' d t' hE
  · have ht' : x.lost' t' := wp_ok (a := b) h hexec
    have heq : exec (MonadExcept.tryCatch m' handler') t = exec (Pure.pure b : Prog τ δ β) t' := by
      rw [exec_tryCatch, hexec]
      rfl
    exact Coupled.congr (.of_lost' (.pure b) ht') heq

/-- What a coupling says of two runs. -/
theorem Coupled.results {m' : Prog τ ε α} {P : σ → τ → Prop}
    (h : Coupled x m m' (fun a s' b t' ↦ b = a ∧ P s' t') (fun e s' d t' ↦ d = e ∧ P s' t') s t)
    (hlost : ¬x.lost (exec m s).2) (hlost' : ¬x.lost' (exec m' t).2)
    (hescapes : ∀ e, (exec m s).1 = .error e → ¬x.escapes e) :
    (exec m' t).1 = (exec m s).1 ∧ P (exec m s).2 (exec m' t).2 := by
  rw [Coupled, wp] at h
  rcases hexec : exec m s with ⟨e | a, s'⟩ <;> rcases hexec' : exec m' t with ⟨d | b, t'⟩ <;>
    simp_all [wp]

end StateExcept
