import Mathlib.Data.List.Forall2

/-!
# Programs with a state and exceptions

A sequential program that mutates objects and raises is an `ExceptT ε (StateM σ)`: what it wrote
before it raised stays written.  `wp m Q E s` says that running `m` from `s` ends in `Q` if it
returns and in `E` if it raises.  A program has one run from each state, so the rules are equations,
and a proof rewrites with them from the first statement of the program to the last.

* `wp_bind`, `wp_pure`, `wp_throw`, `wp_tryCatch`, `wp_get`, `wp_set`, `wp_modify` — the rules.
* `wp_ofExcept` — a pure function that may raise.
* `wp_mono`, `wp_and` — consequence and conjunction.
* `Preserves` — a relation between the state before and after, however the program ends; it composes
  as soon as the relation does (`Preserves.bind`).
* `Raises`, `RaisesIn` — what a program may raise; it composes, and a handler is given it.
* `bind_eq_ok` — a fallible function that returned went through each of its steps.
-/

set_option autoImplicit false

namespace StateExcept

universe u

variable {σ ε α β : Type u}

/-- Programs over the state `σ` which may raise `ε`. -/
abbrev Prog (σ ε α : Type u) := ExceptT ε (StateM σ) α

/-- Run a program: its result, and the state it leaves. -/
def exec (m : Prog σ ε α) (s : σ) : Except ε α × σ := StateT.run (ExceptT.run m) s

/-- The weakest precondition of `m` for the postconditions `Q` and `E`. -/
def wp (m : Prog σ ε α) (Q : α → σ → Prop) (E : ε → σ → Prop) (s : σ) : Prop :=
  match exec m s with
  | (.ok a, s') => Q a s'
  | (.error e, s') => E e s'

variable {m : Prog σ ε α} {f : α → Prog σ ε β} {Q Q' : α → σ → Prop} {R : β → σ → Prop}
  {E E' : ε → σ → Prop} {s : σ}

theorem wp_iff : wp m Q E s ↔ (∀ a s', exec m s = (.ok a, s') → Q a s') ∧
    ∀ e s', exec m s = (.error e, s') → E e s' := by
  rw [wp]
  constructor
  · intro h
    constructor
    · intro a s' heq
      rw [heq] at h
      exact h
    · intro e s' heq
      rw [heq] at h
      exact h
  · rintro ⟨hok, herror⟩
    split
    · rename_i a s' heq
      exact hok a s' heq
    · rename_i e s' heq
      exact herror e s' heq

theorem wp_ok {a : α} {s' : σ} (h : wp m Q E s) (hexec : exec m s = (.ok a, s')) : Q a s' :=
  (wp_iff.mp h).1 a s' hexec

theorem wp_error {e : ε} {s' : σ} (h : wp m Q E s) (hexec : exec m s = (.error e, s')) : E e s' :=
  (wp_iff.mp h).2 e s' hexec

theorem wp_mono (h : wp m Q E s) (hQ : ∀ a s', Q a s' → Q' a s')
    (hE : ∀ e s', E e s' → E' e s') : wp m Q' E' s := by
  obtain ⟨hok, herror⟩ := wp_iff.mp h
  exact wp_iff.mpr ⟨fun a s' heq ↦ hQ a s' (hok a s' heq), fun e s' heq ↦ hE e s' (herror e s' heq)⟩

theorem wp_and (h : wp m Q E s) (h' : wp m Q' E' s) :
    wp m (fun a s' ↦ Q a s' ∧ Q' a s') (fun e s' ↦ E e s' ∧ E' e s') s := by
  obtain ⟨hok, herror⟩ := wp_iff.mp h
  obtain ⟨hok', herror'⟩ := wp_iff.mp h'
  exact wp_iff.mpr ⟨fun a s' heq ↦ ⟨hok a s' heq, hok' a s' heq⟩,
    fun e s' heq ↦ ⟨herror e s' heq, herror' e s' heq⟩⟩

theorem wp_of_exec {a : α} {s' : σ} (hexec : exec m s = (.ok a, s')) : wp m Q E s ↔ Q a s' := by
  rw [wp, hexec]

theorem exec_of_wp {a : α} {s' : σ} (h : wp m (fun b s'' ↦ b = a ∧ s'' = s') (fun _ _ ↦ False) s) :
    exec m s = (.ok a, s') := by
  rw [wp] at h
  split at h
  · next hexec =>
    obtain ⟨rfl, rfl⟩ := h
    exact hexec
  · exact h.elim

/-- A program ends as it ends. -/
theorem wp_exec : wp m (fun a s' ↦ exec m s = (.ok a, s')) (fun e s' ↦ exec m s = (.error e, s')) s :=
  wp_iff.mpr ⟨fun _ _ h ↦ h, fun _ _ h ↦ h⟩

/-- A program that cannot raise returns. -/
theorem exec_of_returns (h : wp m Q (fun _ _ ↦ False) s) : ∃ a s', exec m s = (.ok a, s') ∧ Q a s' := by
  rw [wp] at h
  split at h
  · next a s' heq => exact ⟨a, s', heq, h⟩
  · exact h.elim

/-- What holds of the state however `m` ends. -/
theorem wp_left {P : σ → Prop} (h : wp m (fun _ s' ↦ P s') (fun _ s' ↦ P s') s) :
    P (exec m s).2 := by
  rw [wp] at h
  split at h
  · next heq =>
    rw [heq]
    exact h
  · next heq =>
    rw [heq]
    exact h

/-! ## The rules -/

@[simp]
theorem wp_pure {a : α} : wp (pure a : Prog σ ε α) Q E s ↔ Q a s := Iff.rfl

@[simp]
theorem wp_throw {e : ε} : wp (throw e : Prog σ ε α) Q E s ↔ E e s := Iff.rfl

theorem exec_bind : exec (m >>= f) s = match exec m s with
    | (.ok a, s') => exec (f a) s'
    | (.error e, s') => (.error e, s') := by
  change (match StateT.run (ExceptT.run m) s with
    | (r, s') => StateT.run (ExceptT.bindCont f r) s') = _
  rw [exec]
  rcases StateT.run (ExceptT.run m) s with ⟨_ | _, s'⟩ <;> rfl

@[simp]
theorem wp_bind : wp (m >>= f) R E s ↔ wp m (fun a s' ↦ wp (f a) R E s') E s := by
  rw [wp, wp, exec_bind]
  rcases exec m s with ⟨_ | _, s'⟩ <;> rfl

@[simp]
theorem wp_map {g : α → β} : wp (g <$> m) R E s ↔ wp m (fun a s' ↦ R (g a) s') E s := by
  rw [map_eq_pure_bind, wp_bind]
  rfl

theorem exec_tryCatch {handler : ε → Prog σ ε α} :
    exec (tryCatch m handler) s = match exec m s with
      | (.ok a, s') => (.ok a, s')
      | (.error e, s') => exec (handler e) s' := by
  change (match StateT.run (ExceptT.run m) s with
    | (r, s') => StateT.run (match r with
      | Except.ok a => pure (Except.ok a)
      | Except.error e => ExceptT.run (handler e)) s') = _
  rw [exec]
  rcases StateT.run (ExceptT.run m) s with ⟨_ | _, s'⟩ <;> rfl

@[simp]
theorem wp_tryCatch {handler : ε → Prog σ ε α} :
    wp (tryCatch m handler) Q E s ↔ wp m Q (fun e s' ↦ wp (handler e) Q E s') s := by
  rw [wp, wp, exec_tryCatch]
  rcases exec m s with ⟨_ | _, s'⟩ <;> rfl

@[simp]
theorem wp_get {Q : σ → σ → Prop} : wp (get : Prog σ ε σ) Q E s ↔ Q s s := Iff.rfl

@[simp]
theorem wp_set {s' : σ} {Q : PUnit → σ → Prop} : wp (set s' : Prog σ ε PUnit) Q E s ↔ Q ⟨⟩ s' :=
  Iff.rfl

@[simp]
theorem wp_modify {g : σ → σ} {Q : PUnit → σ → Prop} :
    wp (modify g : Prog σ ε PUnit) Q E s ↔ Q ⟨⟩ (g s) := Iff.rfl

theorem wp_ofExcept {x : Except ε α} : wp (MonadExcept.ofExcept x : Prog σ ε α) Q E s ↔
    (∀ a, x = .ok a → Q a s) ∧ ∀ e, x = .error e → E e s := by
  cases x with
  | ok a => simp [MonadExcept.ofExcept]
  | error e => simp [MonadExcept.ofExcept]

@[simp]
theorem wp_ite {p : Prop} [Decidable p] {m' : Prog σ ε α} :
    wp (if p then m else m') Q E s ↔ (p → wp m Q E s) ∧ (¬ p → wp m' Q E s) := by
  by_cases hp : p <;> simp [hp]

/-- Raise another exception in place of each. -/
def raiseAs {δ : Type u} (raised : ε → δ) (m : Prog σ ε α) : Prog σ δ α := ExceptT.adapt raised m

@[simp]
theorem wp_raiseAs {δ : Type u} {raised : ε → δ} {E : δ → σ → Prop} :
    wp (raiseAs raised m) Q E s ↔ wp m Q (fun e s' ↦ E (raised e) s') s := by
  have hexec : exec (raiseAs raised m) s = match exec m s with
      | (.ok a, s') => (.ok a, s')
      | (.error e, s') => (.error (raised e), s') := by
    change (match StateT.run (ExceptT.run m) s with
      | (r, s') => (Except.mapError raised r, s')) = _
    rw [exec]
    rcases StateT.run (ExceptT.run m) s with ⟨_ | _, s'⟩ <;> rfl
  rw [wp, wp, hexec]
  rcases exec m s with ⟨_ | _, s'⟩ <;> rfl

/-! ## Relations between the state before and after -/

/-- However `m` ends, the state it leaves is related to the one it started from. -/
def Preserves (r : σ → σ → Prop) (m : Prog σ ε α) : Prop :=
  ∀ s, wp m (fun _ s' ↦ r s s') (fun _ s' ↦ r s s') s

variable {r : σ → σ → Prop}

theorem Preserves.pure (hrefl : ∀ s, r s s) (a : α) : Preserves r (pure a : Prog σ ε α) :=
  fun s ↦ hrefl s

theorem Preserves.throw (hrefl : ∀ s, r s s) (e : ε) : Preserves r (throw e : Prog σ ε α) :=
  fun s ↦ hrefl s

theorem Preserves.modify {g : σ → σ} (h : ∀ s, r s (g s)) :
    Preserves r (modify g : Prog σ ε PUnit) :=
  fun s ↦ h s

theorem Preserves.bind (htrans : ∀ a b c, r a b → r b c → r a c) (hm : Preserves r m)
    (hf : ∀ a, Preserves r (f a)) : Preserves r (m >>= f) := by
  intro s
  rw [wp_bind]
  refine wp_mono (hm s) (fun a s' h ↦ ?_) fun e s' h ↦ h
  exact wp_mono (hf a s') (fun _ _ h' ↦ htrans _ _ _ h h') fun _ _ h' ↦ htrans _ _ _ h h'

theorem Preserves.tryCatch (htrans : ∀ a b c, r a b → r b c → r a c)
    {handler : ε → Prog σ ε α} (hm : Preserves r m) (hh : ∀ e, Preserves r (handler e)) :
    Preserves r (tryCatch m handler) := by
  intro s
  rw [wp_tryCatch]
  refine wp_mono (hm s) (fun a s' h ↦ h) fun e s' h ↦ ?_
  exact wp_mono (hh e s') (fun _ _ h' ↦ htrans _ _ _ h h') fun _ _ h' ↦ htrans _ _ _ h h'

theorem Preserves.mapM (hrefl : ∀ s, r s s) (htrans : ∀ a b c, r a b → r b c → r a c)
    {γ : Type u} {g : γ → Prog σ ε α} (h : ∀ c, Preserves r (g c)) :
    ∀ cs : List γ, Preserves r (cs.mapM g)
  | [] => Preserves.pure hrefl []
  | c :: cs => by
    rw [List.mapM_cons]
    exact Preserves.bind htrans (h c) fun a ↦
      Preserves.bind htrans (Preserves.mapM hrefl htrans h cs) fun as ↦ Preserves.pure hrefl (a :: as)

theorem Preserves.run (h : Preserves r m) (s : σ) : r s (exec m s).2 := wp_left (h s)

/-! ## What a program may raise -/

/-- Whatever `m` raises satisfies `P`. -/
def Raises (P : ε → Prop) (m : Prog σ ε α) : Prop :=
  ∀ s, wp m (fun _ _ ↦ True) (fun e _ ↦ P e) s

variable {P P' : ε → Prop}

theorem Raises.pure (a : α) : Raises P (pure a : Prog σ ε α) := fun _ ↦ trivial

theorem Raises.throw {e : ε} (h : P e) : Raises P (throw e : Prog σ ε α) := fun _ ↦ h

theorem Raises.get : Raises P (get : Prog σ ε σ) := fun _ ↦ trivial

theorem Raises.modify (g : σ → σ) : Raises P (modify g : Prog σ ε PUnit) := fun _ ↦ trivial

theorem Raises.bind (hm : Raises P m) (hf : ∀ a, Raises P (f a)) : Raises P (m >>= f) := by
  intro s
  rw [wp_bind]
  exact wp_mono (hm s) (fun a s' _ ↦ hf a s') fun _ _ h ↦ h

/-- A handler is given what `m` raises. -/
theorem Raises.tryCatch {handler : ε → Prog σ ε α} (hm : Raises P m)
    (hh : ∀ e, P e → Raises P' (handler e)) : Raises P' (tryCatch m handler) := by
  intro s
  rw [wp_tryCatch]
  exact wp_mono (hm s) (fun _ _ _ ↦ trivial) fun e s' h ↦ hh e h s'

theorem Raises.ite {p : Prop} [Decidable p] {m' : Prog σ ε α} (hm : Raises P m)
    (hm' : Raises P m') : Raises P (if p then m else m') := by
  split
  · exact hm
  · exact hm'

theorem Raises.run (h : Raises P m) {e : ε} (hexec : (exec m s).1 = .error e) : P e :=
  wp_error (h s) (Prod.ext hexec rfl)

/-- Whatever `m` raises satisfies `P`, with the state it leaves. -/
def RaisesIn (P : ε → σ → Prop) (m : Prog σ ε α) : Prop := ∀ s, wp m (fun _ _ ↦ True) P s

section RaisesIn

variable {P : ε → σ → Prop}

theorem RaisesIn.pure (a : α) : RaisesIn P (pure a : Prog σ ε α) := fun _ ↦ trivial

theorem RaisesIn.throw {e : ε} (h : ∀ s, P e s) : RaisesIn P (throw e : Prog σ ε α) := h

theorem RaisesIn.bind (hm : RaisesIn P m) (hf : ∀ a, RaisesIn P (f a)) : RaisesIn P (m >>= f) := by
  intro s
  rw [wp_bind]
  exact wp_mono (hm s) (fun a s' _ ↦ hf a s') fun _ _ h ↦ h

end RaisesIn

/-! ## Fallible functions without a state -/

section Except

variable {ε α β : Type} {x : Except ε α} {f : α → Except ε β}

@[simp]
theorem ok_bind {a : α} : (Except.ok a >>= f) = f a := rfl

theorem bind_eq_ok {b : β} (h : (x >>= f) = .ok b) : ∃ a, x = .ok a ∧ f a = .ok b := by
  cases x with
  | error e => cases h
  | ok a => exact ⟨a, rfl, h⟩

theorem bind_eq_error {e : ε} (h : (x >>= f) = .error e) :
    x = .error e ∨ ∃ a, x = .ok a ∧ f a = .error e := by
  cases x with
  | error e' =>
    cases h
    exact Or.inl rfl
  | ok a => exact Or.inr ⟨a, rfl, h⟩

theorem bind_pure_error {f : α → β} {e : ε} (h : (x >>= fun a ↦ pure (f a)) = .error e) :
    x = .error e := by
  cases x with
  | error e' => cases h; rfl
  | ok a => cases h

/-- A fallible function that was applied to each of a list, and returned with its argument. -/
theorem mapM_pair_ok {f : α → Except ε β} : ∀ {xs : List α} {ys : List (α × β)},
    (xs.mapM fun a ↦ do return (a, ← f a)) = .ok ys →
      ys.map Prod.fst = xs ∧ ∀ y ∈ ys, f y.1 = .ok y.2
  | [], ys, h => by
    obtain rfl := Except.ok.inj h
    simp
  | a :: xs, ys, h => by
    rw [List.mapM_cons] at h
    obtain ⟨y, hy, h⟩ := bind_eq_ok h
    obtain ⟨b, hb, hpair⟩ := bind_eq_ok hy
    obtain ⟨rest, hrest, h⟩ := bind_eq_ok h
    obtain rfl := Except.ok.inj hpair
    obtain rfl := Except.ok.inj h
    obtain ⟨hkeys, hvalues⟩ := mapM_pair_ok hrest
    exact ⟨by rw [List.map_cons, hkeys], List.forall_mem_cons.mpr ⟨hb, hvalues⟩⟩

theorem mapM_eq_ok {ε α β : Type} {f : α → Except ε β} : ∀ {xs : List α} {ys : List β},
    xs.mapM f = .ok ys → List.Forall₂ (fun x y ↦ f x = .ok y) xs ys
  | [], ys, h => by
    obtain rfl := Except.ok.inj h
    exact .nil
  | x :: xs, ys, h => by
    rw [List.mapM_cons] at h
    obtain ⟨y, hy, h⟩ := bind_eq_ok h
    obtain ⟨rest, hrest, h⟩ := bind_eq_ok h
    obtain rfl := Except.ok.inj h
    exact .cons hy (mapM_eq_ok hrest)

theorem mapM_eq_error {ε α β : Type} {f : α → Except ε β} {e : ε} :
    ∀ {xs : List α}, xs.mapM f = .error e → ∃ x ∈ xs, f x = .error e
  | [], h => by cases h
  | x :: xs, h => by
    rw [List.mapM_cons] at h
    rcases bind_eq_error h with hx | ⟨y, -, h⟩
    · exact ⟨x, List.mem_cons_self, hx⟩
    · obtain ⟨x', hx', herror⟩ := mapM_eq_error (bind_pure_error h)
      exact ⟨x', List.mem_cons_of_mem x hx', herror⟩

theorem mem_of_mapM_ok {ε α β : Type} {f : α → Except ε β} {xs : List α} {ys : List β}
    (h : xs.mapM f = .ok ys) {y : β} (hy : y ∈ ys) : ∃ x ∈ xs, f x = .ok y := by
  have hall := mapM_eq_ok h
  clear h
  induction hall with
  | nil => cases hy
  | cons hfirst _ ih =>
    rcases List.mem_cons.mp hy with rfl | hy
    · exact ⟨_, List.mem_cons_self, hfirst⟩
    · obtain ⟨x, hx, hxy⟩ := ih hy
      exact ⟨x, List.mem_cons_of_mem _ hx, hxy⟩

/-- A function that may fail was applied to each of a list, if it fails for none. -/
theorem mapM_ok_iff {ε α β : Type} {f : α → Except ε β} {xs : List α} :
    (∃ ys, xs.mapM f = .ok ys) ↔ ∀ x ∈ xs, ∃ y, f x = .ok y := by
  constructor
  · rintro ⟨ys, h⟩
    have hall := mapM_eq_ok h
    clear h
    induction hall with
    | nil => exact List.forall_mem_nil _
    | cons hy _ ih => exact List.forall_mem_cons.mpr ⟨⟨_, hy⟩, ih⟩
  · intro h
    cases hxs : xs.mapM f with
    | ok ys => exact ⟨ys, rfl⟩
    | error e =>
      obtain ⟨x, hx, herror⟩ := mapM_eq_error hxs
      obtain ⟨y, hy⟩ := h x hx
      cases herror.symm.trans hy

end Except

end StateExcept
