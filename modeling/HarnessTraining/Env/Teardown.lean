import HarnessTraining.Env.DockerShell

/-!
# What `close` leaves behind

The session owns its container through `_started` alone, which is set after `containers.run` returned,
and it forgets a network before it removes it.

* `Shell.kept` — the events that lose nothing.
* `Owned` — the invariant of a run of them.
* `close_leaves_nothing` — after `close` nothing is left, in every such run.
-/

set_option autoImplicit false

namespace HarnessTraining

namespace DockerShell

open Transitions

namespace Shell

/-- The awaited `containers.run` has created its container. -/
def made (s : Shell) : Bool :=
  match s.task with
  | .containersRun _ _ thread =>
    match s.threads[thread]? with
    | some (.running (.start _ _)) | some (.settled (.ok _)) => true
    | _ => false
  | _ => false

/-- `start` waits for a thread to run the container. -/
def waitsFor (s : Shell) (id : ℕ) : Bool :=
  match s.task with
  | .containersRun _ _ thread => thread = id
  | _ => false

/-- A container that is there is being removed. -/
def isRemoving (s : Shell) : Bool :=
  match s.container with
  | none => true
  | some container => .calling (.remove container) ∈ s.threads

/-- `close` took the network, if there was one. -/
def isTaken (s : Shell) : Bool :=
  match s.task with
  | .closed | .dropping (.closing true) _ => true
  | _ => false

/-- The events that lose nothing. -/
def kept (s : Shell) : ShellEvent → Bool
  | .completes id _ =>
    match s.threads[id]? with
    -- a network is created when the session has none, and `close` still takes it
    | some (.running .createNetwork) => s.network = none ∧ s.isTaken = false
    -- a container is created only while `start` waits for it
    | some (.running (.create _)) => s.waitsFor id
    | _ => true
  | .fails id _ =>
    match s.threads[id]? with
    -- the second half of `containers.run`
    | some (.running (.start _ _)) => false
    | some (.calling (.remove container)) => s.container ≠ some container ∨ s.started
    | some (.calling (.removeNetwork network)) => network ∉ s.networks
    | _ => true
  | .resume =>
    match s.task with
    | .setupRemove _ => s.network ≠ none ∨ s.isRemoving
    | .dropping .setupFailed thread =>
      s.threads[thread]? = some (.settled (.error .other)) ∨ s.isRemoving
    | _ => true
  | .expire =>
    match s.task with
    | .setupRemove _ => s.network ≠ none ∨ s.isRemoving
    | _ => !s.made
  | .cancel => !s.made
  | _ => true

end Shell

/-! ## The invariant -/

/-- What a `get` found is there, or nothing is. -/
def GetOk (container : Option ℕ) : Option Thread → Prop
  | some (.calling .get) => True
  | some (.settled (.ok (.container found))) => container = none ∨ container = some found
  | some (.settled (.error error)) => error = .notFound → container = none
  | _ => False

/-- A removal removes what is there. -/
def RemoveOk (container : Option ℕ) : Option Thread → Prop
  | some (.calling (.remove found)) => container = none ∨ container = some found
  | some (.settled (.ok _)) => container = none
  | some (.settled (.error error)) => error = .notFound → container = none
  | _ => False

/-- What is known of the call in progress. -/
def TaskOk (s : Shell) : Task → Prop
  | .closed | .dropping (.closing true) _ => s.started = false ∧ s.network = none
  | .runGet thread | .closeGet thread => GetOk s.container s.threads[thread]?
  | .runPin found _ | .runExec found _ => s.container = none ∨ s.container = some found
  | .runRemove thread | .closeRemove thread => RemoveOk s.container s.threads[thread]?
  | _ => True

/-- What Docker has is known to the session, or is being removed. -/
structure Held (s : Shell) : Prop where
  container : ∀ container, s.container = some container →
    s.started = true ∨ .calling (.remove container) ∈ s.threads
  networks : ∀ network ∈ s.networks,
    s.network = some network ∨ .calling (.removeNetwork network) ∈ s.threads

/-- **The invariant**: what Docker has is known to the session, is being removed, or is the container
that `start` waits for. -/
structure Owned (s : Shell) : Prop where
  container : ∀ container, s.container = some container → s.made = true ∨
    s.started = true ∨ .calling (.remove container) ∈ s.threads
  networks : ∀ network ∈ s.networks,
    s.network = some network ∨ .calling (.removeNetwork network) ∈ s.threads
  task : TaskOk s s.task

variable {managed : Bool} {s s' : Shell}

theorem Owned.held (h : Owned s) (hmade : s.made = false) : Held s where
  container container hcontainer := (h.container container hcontainer).resolve_left (by simp [hmade])
  networks := h.networks

theorem Held.owned (h : Held s) (htask : TaskOk s s.task) : Owned s where
  container container hcontainer := Or.inr (h.container container hcontainer)
  networks := h.networks
  task := htask

/-! ## The awaiter goes on -/

theorem Held.setTask (h : Held s) (task : Task) : Held (s.setTask task) := ⟨h.container, h.networks⟩

theorem Held.spawn (h : Held s) (thread : Thread) (task : ℕ → Task) : Held (s.spawn thread task) where
  container container hcontainer :=
    (h.container container hcontainer).imp_right fun hmem ↦ List.mem_append_left _ hmem
  networks network hnetwork :=
    (h.networks network hnetwork).imp_right fun hmem ↦ List.mem_append_left _ hmem

theorem Held.own (h : Held s) : Held { s with started := true } where
  container _ _ := Or.inl rfl
  networks := h.networks

/-- The session lets its container go when there is none, or it is being removed. -/
theorem Held.disown (h : Held s) (hremoving : s.isRemoving = true) :
    Held { s with started := false } where
  container container hcontainer := by
    have hcontainer : s.container = some container := hcontainer
    rw [Shell.isRemoving, hcontainer] at hremoving
    exact Or.inr (of_decide_eq_true hremoving)
  networks := h.networks

theorem isRemoving_of_none (h : s.container = none) : s.isRemoving = true := by
  rw [Shell.isRemoving, h]

theorem getElem?_spawn (thread : Thread) (task : ℕ → Task) :
    (s.spawn thread task).threads[s.threads.length]? = some thread := by
  simp [Shell.spawn]

theorem Held.owned_setTask (h : Held s) {task : Task} (htask : TaskOk s task) :
    Owned (s.setTask task) := by
  refine (h.setTask task).owned ?_
  change TaskOk (s.setTask task) task
  cases task with
  | dropping after thread => cases after with
    | closing returns => cases returns <;> exact htask
    | _ => trivial
  | _ => exact htask

/-- A network that is taken is being removed. -/
theorem Held.take {network : ℕ} (h : Held s) (hnetwork : s.network = some network) (after : After) :
    Held ({ s with network := none }.spawn (.calling (.removeNetwork network)) (.dropping after)) where
  container container hcontainer :=
    (h.container container hcontainer).imp_right fun hmem ↦ List.mem_append_left _ hmem
  networks network' hmem := by
    refine Or.inr ?_
    rcases h.networks network' hmem with hsame | hcalling
    · rw [Option.some.inj (hnetwork.symm.trans hsame)]
      exact List.mem_append_right _ List.mem_cons_self
    · exact List.mem_append_left _ hcalling

theorem Held.finish (h : Held s) {after : After}
    (hsetup : after = .setupFailed → s.isRemoving = true)
    (hclosing : after = .closing true → s.started = false ∧ s.network = none) :
    Owned (s.finish after) := by
  cases after with
  | startFailed => exact h.owned_setTask trivial
  | setupFailed => exact ((h.disown (hsetup rfl)).setTask .rest).owned trivial
  | closing returns =>
    cases returns with
    | false => exact h.owned_setTask trivial
    | true => exact h.owned_setTask (hclosing rfl)

theorem Held.dropNetwork (h : Held s) {after : After}
    (hsetup : after = .setupFailed → s.network = none → s.isRemoving = true)
    (hclosing : after = .closing true → s.started = false) : Owned (s.dropNetwork after) := by
  rw [Shell.dropNetwork]
  split
  · next hnone => exact h.finish (fun hafter ↦ hsetup hafter hnone) fun hafter ↦
      ⟨hclosing hafter, hnone⟩
  · next network hnetwork =>
    refine (h.take hnetwork after).owned ?_
    change TaskOk _ (.dropping after _)
    cases after with
    | closing returns => cases returns with
      | false => trivial
      | true => exact ⟨hclosing rfl, rfl⟩
    | _ => trivial

theorem Held.pin (h : Held s) (container left : ℕ) : Owned (s.pin container left) := by
  cases left with
  | zero => exact h.owned_setTask trivial
  | succ left => exact (h.spawn _ _).owned trivial

theorem Held.begun (h : Held s) (setup : Bool) (container : ℕ) : Owned (s.begun setup container) := by
  rw [Shell.begun]
  split
  · exact (h.own.spawn _ _).owned trivial
  · exact h.own.pin container 3

/-- The awaited thread has settled without a container. -/
theorem made_of_error {error : DockerError} {thread : ℕ} (hawaited : Shell.awaited s.task = some thread)
    (hthread : s.threads[thread]? = some (.settled (.error error))) : s.made = false := by
  rw [Shell.made]
  split
  · next setup attempt thread' htask =>
    rw [htask] at hawaited
    cases hawaited
    rw [hthread]
  · rfl

theorem made_of_task (h : ∀ setup attempt thread, s.task ≠ .containersRun setup attempt thread) :
    s.made = false := by
  rw [Shell.made]
  split
  · next setup attempt thread htask => exact absurd htask (h setup attempt thread)
  · rfl

/-- `start` lets its container go after its network was removed. -/
theorem isRemoving_of_dropping {thread thread' : ℕ} {result : Except DockerError Reply}
    (htask : s.task = .dropping .setupFailed thread') (hkept : s.kept .resume = true)
    (hawaited : Shell.awaited s.task = some thread)
    (hthread : s.threads[thread]? = some (.settled result)) (hresult : result ≠ .error .other) :
    s.isRemoving = true := by
  rw [htask] at hawaited
  cases hawaited
  rw [Shell.kept, htask] at hkept
  refine (of_decide_eq_true hkept).resolve_left fun hother ↦ hresult ?_
  cases hthread.symm.trans hother
  rfl

/-- **The awaiter goes on with what its thread returned.** -/
theorem Owned.resume {thread : ℕ} {result : Except DockerError Reply} (h : Owned s)
    (hthread : s.threads[thread]? = some (.settled result))
    (hawaited : Shell.awaited s.task = some thread) (hkept : s.kept .resume = true)
    (hresume : s.resume s.task result = some s') : Owned s' := by
  have htask := h.task
  have hmade := fun hne ↦ h.held (made_of_task hne)
  unfold Shell.resume at hresume
  split at hresume
  · next setup attempt thread' container heq =>
    cases hresume
    have hheld : Held { s with started := true } := ⟨fun _ _ ↦ Or.inl rfl, h.networks⟩
    rw [Shell.begun]
    split
    · exact (hheld.spawn _ _).owned trivial
    · exact hheld.pin container 3
  · next setup attempt thread' error heq =>
    have hheld := h.held (made_of_error hawaited hthread)
    cases hresume
    split
    · exact hheld.owned_setTask trivial
    · exact hheld.dropNetwork (fun hafter ↦ nomatch hafter) (fun hafter ↦ nomatch hafter)
  · next container thread' heq =>
    cases hresume
    exact (hmade (by simp [heq])).pin container 3
  · next container thread' heq =>
    cases hresume
    exact ((hmade (by simp [heq])).spawn _ _).owned trivial
  · next container thread' error heq =>
    cases hresume
    exact ((hmade (by simp [heq])).spawn _ _).owned trivial
  · next thread' heq =>
    cases hresume
    rw [Shell.kept, heq] at hkept
    refine (hmade (by simp [heq])).dropNetwork (fun _ hnone ↦ ?_) (fun hafter ↦ nomatch hafter)
    exact (of_decide_eq_true hkept).resolve_left (not_not.mpr hnone)
  · next left container thread' heq =>
    cases hresume
    exact (hmade (by simp [heq])).pin container left
  · next after thread' reply heq =>
    cases hresume
    refine (hmade (by simp [heq])).finish (fun hafter ↦ ?_) (fun hafter ↦ ?_)
    · exact isRemoving_of_dropping (hafter ▸ heq) hkept hawaited hthread (by simp)
    · subst hafter
      rwa [heq] at htask
  · next after thread' error heq =>
    cases hresume
    split
    · next hexception =>
      refine (hmade (by simp [heq])).finish (fun hafter ↦ ?_) (fun hafter ↦ ?_)
      · refine isRemoving_of_dropping (hafter ▸ heq) hkept hawaited hthread fun hother ↦ ?_
        cases hother
        cases hexception
      · subst hafter
        rwa [heq] at htask
    · exact (hmade (by simp [heq])).owned_setTask trivial
  · next thread' container heq =>
    cases hresume
    rw [heq] at htask hawaited
    cases hawaited
    rw [TaskOk, hthread] at htask
    exact ((hmade (by simp [heq])).spawn _ _).owned htask
  · next container thread' heq =>
    cases hresume
    rw [heq] at htask
    exact ((hmade (by simp [heq])).spawn _ _).owned htask
  · next thread' reply heq =>
    cases hresume
    rw [heq] at htask hawaited
    cases hawaited
    rw [TaskOk, hthread] at htask
    have hheld := (hmade (by simp [heq])).disown (isRemoving_of_none htask)
    exact (hheld.setTask .rest).owned trivial
  · next thread' error heq =>
    cases hresume
    exact (hmade (by simp [heq])).owned_setTask trivial
  · next container thread' heq =>
    cases hresume
    exact (hmade (by simp [heq])).owned_setTask trivial
  · next thread' error heq =>
    cases hresume
    exact (hmade (by simp [heq])).owned_setTask trivial
  · next thread' container heq =>
    cases hresume
    rw [heq] at htask hawaited
    cases hawaited
    rw [TaskOk, hthread] at htask
    refine ((hmade (by simp [heq])).spawn _ _).owned ?_
    change RemoveOk s.container _
    rw [getElem?_spawn]
    exact htask
  · next thread' reply heq =>
    cases hresume
    rw [heq] at htask hawaited
    cases hawaited
    rw [TaskOk, hthread] at htask
    exact ((hmade (by simp [heq])).disown (isRemoving_of_none htask)).dropNetwork
      (fun hafter ↦ nomatch hafter) fun _ ↦ rfl
  · next thread' heq =>
    cases hresume
    rw [heq] at htask hawaited
    cases hawaited
    rw [TaskOk, hthread] at htask
    exact ((hmade (by simp [heq])).disown (isRemoving_of_none (htask rfl))).dropNetwork
      (fun hafter ↦ nomatch hafter) fun _ ↦ rfl
  · next thread' heq =>
    cases hresume
    rw [heq] at htask hawaited
    cases hawaited
    rw [TaskOk, hthread] at htask
    exact ((hmade (by simp [heq])).disown (isRemoving_of_none (htask rfl))).dropNetwork
      (fun hafter ↦ nomatch hafter) fun _ ↦ rfl
  · next thread' error hne heq =>
    cases hresume
    exact (hmade (by simp [heq])).dropNetwork (fun hafter ↦ nomatch hafter) (fun hafter ↦ nomatch hafter)
  · next thread' error hne heq =>
    cases hresume
    exact (hmade (by simp [heq])).dropNetwork (fun hafter ↦ nomatch hafter) (fun hafter ↦ nomatch hafter)
  · cases hresume

theorem Owned.expire (h : Owned s) (hkept : s.kept .expire = true)
    (hexpire : s.expire s.task = some s') : Owned s' := by
  have htask := h.task
  have hmade := fun hne ↦ h.held (made_of_task hne)
  unfold Shell.expire at hexpire
  split at hexpire
  · next setup attempt thread heq =>
    cases hexpire
    have hunmade : s.made = false := by simpa [Shell.kept, heq] using hkept
    exact (h.held hunmade).dropNetwork (fun hafter ↦ nomatch hafter) (fun hafter ↦ nomatch hafter)
  · next container thread heq =>
    cases hexpire
    exact ((hmade (by simp [heq])).spawn _ _).owned trivial
  · next thread heq =>
    cases hexpire
    rw [Shell.kept, heq] at hkept
    refine (hmade (by simp [heq])).dropNetwork (fun _ hnone ↦ ?_) (fun hafter ↦ nomatch hafter)
    exact (of_decide_eq_true hkept).resolve_left (not_not.mpr hnone)
  · next left container thread heq =>
    cases hexpire
    exact (hmade (by simp [heq])).pin container left
  · next after thread heq =>
    cases hexpire
    exact (hmade (by simp [heq])).owned_setTask trivial
  · next container thread heq =>
    cases hexpire
    rw [heq] at htask
    exact ((hmade (by simp [heq])).spawn _ _).owned htask
  · next container thread heq =>
    cases hexpire
    rw [heq] at htask
    refine ((hmade (by simp [heq])).spawn _ _).owned ?_
    change RemoveOk s.container _
    rw [getElem?_spawn]
    exact htask
  · next thread heq =>
    cases hexpire
    exact (hmade (by simp [heq])).dropNetwork (fun hafter ↦ nomatch hafter) (fun hafter ↦ nomatch hafter)
  · cases hexpire

theorem Owned.cancel (h : Owned s) (hkept : s.kept .cancel = true)
    (hcancel : s.cancel s.task = some s') : Owned s' := by
  have hheld := h.held (by simpa [Shell.kept] using hkept)
  unfold Shell.cancel at hcancel
  split at hcancel
  · cases hcancel
  · cases hcancel
  · cases hcancel
  · cases hcancel
  · cases hcancel
  · cases hcancel
    exact hheld.owned_setTask trivial

/-! ## A thread goes on -/

theorem mem_set_of_ne {threads : List Thread} {id : ℕ} {thread old new : Thread}
    (hmem : thread ∈ threads) (hold : threads[id]? = some old) (hne : thread ≠ old) :
    thread ∈ threads.set id new := by
  obtain ⟨place, hplace⟩ := List.mem_iff_getElem?.mp hmem
  refine List.mem_iff_getElem?.mpr ⟨place, ?_⟩
  rwa [List.getElem?_set_ne]
  rintro rfl
  exact hne (Option.some.inj (hplace.symm.trans hold))

theorem GetOk.mono {container container' : Option ℕ} {thread : Option Thread}
    (h : GetOk container thread) (hcontainer : container' = container ∨ container' = none) :
    GetOk container' thread := by
  rcases hcontainer with rfl | rfl
  · exact h
  · unfold GetOk at h ⊢
    split at h
    · trivial
    · exact Or.inl rfl
    · exact fun _ ↦ rfl
    · exact h.elim

theorem RemoveOk.mono {container container' : Option ℕ} {thread : Option Thread}
    (h : RemoveOk container thread) (hcontainer : container' = container ∨ container' = none) :
    RemoveOk container' thread := by
  rcases hcontainer with rfl | rfl
  · exact h
  · unfold RemoveOk at h ⊢
    split at h
    · exact Or.inl rfl
    · rfl
    · exact fun _ ↦ rfl
    · exact h.elim

/-- What is known of the call in progress, when a thread went on. -/
theorem TaskOk.of_thread {task : Task} {id : ℕ} {old new : Thread} (h : TaskOk s task)
    (hthread : s.threads[id]? = some old) (hthreads : s'.threads = s.threads.set id new)
    (hstarted : s'.started = s.started) (hnetwork : s'.network = s.network)
    (hcontainer : s'.container = s.container ∨ s'.container = none)
    (hget : GetOk s'.container (some old) → GetOk s'.container (some new))
    (hremove : RemoveOk s'.container (some old) → RemoveOk s'.container (some new)) :
    TaskOk s' task := by
  have hlength : id < s.threads.length := (List.getElem?_eq_some_iff.mp hthread).1
  have hgot {thread : ℕ} (hok : GetOk s.container s.threads[thread]?) :
      GetOk s'.container s'.threads[thread]? := by
    have hok := hok.mono hcontainer
    rw [hthreads]
    by_cases heq : id = thread
    · subst heq
      rw [hthread] at hok
      rw [List.getElem?_set_self hlength]
      exact hget hok
    · rwa [List.getElem?_set_ne heq]
  have hremoved {thread : ℕ} (hok : RemoveOk s.container s.threads[thread]?) :
      RemoveOk s'.container s'.threads[thread]? := by
    have hok := hok.mono hcontainer
    rw [hthreads]
    by_cases heq : id = thread
    · subst heq
      rw [hthread] at hok
      rw [List.getElem?_set_self hlength]
      exact hremove hok
    · rwa [List.getElem?_set_ne heq]
  have hfound {found : ℕ} (hok : s.container = none ∨ s.container = some found) :
      s'.container = none ∨ s'.container = some found := by
    rcases hcontainer with hsame | hnone
    · rwa [hsame]
    · exact Or.inl hnone
  cases task with
  | closed => exact ⟨hstarted.trans h.1, hnetwork.trans h.2⟩
  | dropping after thread => cases after with
    | closing returns => cases returns with
      | true => exact ⟨hstarted.trans h.1, hnetwork.trans h.2⟩
      | false => trivial
    | _ => trivial
  | runGet thread => exact hgot h
  | closeGet thread => exact hgot h
  | runPin found thread => exact hfound h
  | runExec found thread => exact hfound h
  | runRemove thread => exact hremoved h
  | closeRemove thread => exact hremoved h
  | _ => trivial

theorem made_of_thread {id : ℕ} {old new : Thread} (h : s.made = true)
    (hthread : s.threads[id]? = some old) (hthreads : s'.threads = s.threads.set id new)
    (htask : s'.task = s.task) (hsettled : old.isSettled = false)
    (hstart : ∀ pulled container, old ≠ .running (.start pulled container)) : s'.made = true := by
  unfold Shell.made at h ⊢
  rw [htask]
  split at h
  · next setup attempt thread heq =>
    by_cases hsame : id = thread
    · subst hsame
      rw [hthread] at h
      split at h
      · next pulled container hrunning =>
        exact absurd (Option.some.inj hrunning) (hstart pulled container)
      · next reply hdone =>
        rw [Option.some.inj hdone] at hsettled
        cases hsettled
      · cases h
    · rwa [hthreads, List.getElem?_set_ne hsame]
  · cases h

theorem made_returns {id : ℕ} (reply : Reply) (h : s.made = true) (hlength : id < s.threads.length) :
    (s.setThread id (.settled (.ok reply))).made = true := by
  unfold Shell.made at h ⊢
  dsimp only [Shell.setThread]
  split at h
  · next setup attempt thread heq =>
    by_cases hsame : id = thread
    · subst hsame
      rw [List.getElem?_set_self hlength]
    · rwa [List.getElem?_set_ne hsame]
  · cases h

/-- A thread went on that made nothing. -/
theorem Owned.of_thread {id : ℕ} {old new : Thread} (h : Owned s)
    (hthread : s.threads[id]? = some old) (hthreads : s'.threads = s.threads.set id new)
    (htask : s'.task = s.task) (hstarted : s'.started = s.started) (hnetwork : s'.network = s.network)
    (hcontainer : s'.container = s.container ∨ s'.container = none)
    (hnetworks : ∀ network ∈ s'.networks, network ∈ s.networks)
    (hmade : s.made = true → s'.made = true)
    (hremoves : ∀ container, s'.container = some container → old = .calling (.remove container) →
      s.started = true)
    (hdrops : ∀ network ∈ s'.networks, old ≠ .calling (.removeNetwork network))
    (hget : GetOk s'.container (some old) → GetOk s'.container (some new))
    (hremove : RemoveOk s'.container (some old) → RemoveOk s'.container (some new)) : Owned s' where
  container container hsome := by
    have hbefore : s.container = some container := by
      rcases hcontainer with hsame | hnone
      · rwa [← hsame]
      · cases hnone.symm.trans hsome
    rcases h.container container hbefore with hmade' | hstarted' | hremoving
    · exact Or.inl (hmade hmade')
    · exact Or.inr (Or.inl (hstarted.trans hstarted'))
    · by_cases hold : old = .calling (.remove container)
      · exact Or.inr (Or.inl (hstarted.trans (hremoves container hsome hold)))
      · rw [hthreads]
        exact Or.inr (Or.inr (mem_set_of_ne hremoving hthread (Ne.symm hold)))
  networks network hmem := by
    rw [hnetwork, hthreads]
    exact (h.networks network (hnetworks network hmem)).imp_right fun hcalling ↦
      mem_set_of_ne hcalling hthread (Ne.symm (hdrops network hmem))
  task := by
    rw [htask]
    exact h.task.of_thread hthread hthreads hstarted hnetwork hcontainer hget hremove

theorem made_start {id container : ℕ} {pulled : Bool} (hwaits : s.waitsFor id = true)
    (htask : s'.task = s.task) (hthread : s'.threads[id]? = some (.running (.start pulled container))) :
    s'.made = true := by
  unfold Shell.waitsFor at hwaits
  split at hwaits
  · next setup attempt thread heq =>
    obtain rfl := of_decide_eq_true hwaits
    simp only [Shell.made, htask, heq, hthread]
  · cases hwaits

/-- A network is created for a session that has none. -/
theorem Owned.createNetwork (h : Owned s) (hnone : s.network = none) (htaken : s.isTaken = false) :
    Owned { s with networks := s.fresh :: s.networks, network := some s.fresh, fresh := s.fresh + 1 } where
  container := h.container
  networks network hmem := by
    rcases List.mem_cons.mp hmem with rfl | hmem
    · exact Or.inl rfl
    · exact Or.inr ((h.networks network hmem).resolve_left (by simp [hnone]))
  task := by
    have htask := h.task
    rw [Shell.isTaken] at htaken
    change TaskOk _ s.task
    generalize s.task = task at htask htaken
    cases task with
    | closed => cases htaken
    | dropping after thread => cases after with
      | closing returns => cases returns with
        | true => cases htaken
        | false => trivial
      | _ => trivial
    | _ => exact htask

/-- A container is created for `start`, which waits for it. -/
theorem Owned.createContainer (h : Owned s) (hmade : s.made = true) :
    Owned { s with container := some s.fresh, fresh := s.fresh + 1 } where
  container _ _ := Or.inl hmade
  networks := h.networks
  task := by
    unfold Shell.made at hmade
    split at hmade
    · next setup attempt thread heq =>
      change TaskOk _ s.task
      rw [heq]
      trivial
    · cases hmade

/-- **A thread goes on**, and its call succeeds. -/
theorem Owned.completes {id : ℕ} {zero : Bool} {thread : Thread} (h : Owned s)
    (hthread : s.threads[id]? = some thread) (hkept : s.kept (.completes id zero) = true)
    (hstep : s.completes managed id zero thread = some s') : Owned s' := by
  have hlength : id < s.threads.length := (List.getElem?_eq_some_iff.mp hthread).1
  have hmade {new : Thread} (hsettled : thread.isSettled = false)
      (hstart : ∀ pulled container, thread ≠ .running (.start pulled container)) :
      s.made = true → (s.setThread id new).made = true := fun hmade ↦
    made_of_thread hmade hthread rfl rfl hsettled hstart
  rw [Shell.kept, hthread] at hkept
  unfold Shell.completes at hstep
  split at hstep
  · -- the test of the network
    cases hstep
    exact h.of_thread hthread rfl rfl rfl rfl (Or.inl rfl) (fun _ hmem ↦ hmem) (hmade rfl (by simp))
      (by simp) (by simp) False.elim False.elim
  · -- `networks.create`
    cases hstep
    obtain ⟨hnone, htaken⟩ := of_decide_eq_true hkept
    have hbefore : Owned (s.setThread id (.running (.create false))) :=
      h.of_thread hthread rfl rfl rfl rfl (Or.inl rfl) (fun _ hmem ↦ hmem) (hmade rfl (by simp))
        (by simp) (by simp) False.elim False.elim
    exact hbefore.createNetwork hnone htaken
  · next pulled =>
    split at hstep
    · cases hstep
      have hbefore : Owned (s.setThread id (.running (.start pulled s.fresh))) :=
        h.of_thread hthread rfl rfl rfl rfl (Or.inl rfl) (fun _ hmem ↦ hmem) (hmade rfl (by simp))
          (by simp) (by simp) False.elim False.elim
      exact hbefore.createContainer (made_start hkept rfl (List.getElem?_set_self hlength))
    · cases hstep
  · cases hstep
    exact h.of_thread hthread rfl rfl rfl rfl (Or.inl rfl) (fun _ hmem ↦ hmem)
      (fun hmade ↦ made_returns _ hmade hlength) (by simp) (by simp) False.elim False.elim
  · -- `images.pull`
    cases hstep
    exact h.of_thread hthread rfl rfl rfl rfl (Or.inl rfl) (fun _ hmem ↦ hmem) (hmade rfl (by simp))
      (by simp) (by simp) False.elim False.elim
  · -- `containers.get`
    obtain ⟨container, hcontainer, hsame⟩ := Option.map_eq_some_iff.mp hstep
    cases hsame
    exact h.of_thread hthread rfl rfl rfl rfl (Or.inl rfl) (fun _ hmem ↦ hmem) (hmade rfl (by simp))
      (by simp) (by simp) (fun _ ↦ Or.inr hcontainer) False.elim
  · cases hstep
    exact h.of_thread hthread rfl rfl rfl rfl (Or.inl rfl) (fun _ hmem ↦ hmem) (hmade rfl (by simp))
      (by simp) (by simp) False.elim False.elim
  · next container =>
    split at hstep
    · cases hstep
      exact h.of_thread hthread rfl rfl rfl rfl (Or.inr rfl) (fun _ hmem ↦ hmem)
        (hmade rfl (by simp)) (by simp) (by simp) False.elim (fun _ ↦ rfl)
    · cases hstep
  · next network =>
    split at hstep
    · cases hstep
      exact h.of_thread hthread rfl rfl rfl rfl (Or.inl rfl)
        (fun _ hmem ↦ (List.mem_filter.mp hmem).1) (hmade rfl (by simp)) (by simp)
        (fun network' hmem hsame ↦ by
          cases hsame
          simp at hmem)
        False.elim False.elim
    · cases hstep
  · cases hstep

/-- **A thread goes on**, and its call fails. -/
theorem Owned.fails {id : ℕ} {error : DockerError} {thread : Thread} (h : Owned s)
    (hthread : s.threads[id]? = some thread) (hkept : s.kept (.fails id error) = true)
    (hstep : s.fails id error thread = some s') : Owned s' := by
  have hmade {new : Thread} (hsettled : thread.isSettled = false)
      (hstart : ∀ pulled container, thread ≠ .running (.start pulled container)) :
      s.made = true → (s.setThread id new).made = true := fun hmade ↦
    made_of_thread hmade hthread rfl rfl hsettled hstart
  rw [Shell.kept, hthread] at hkept
  unfold Shell.fails at hstep
  split at hstep
  · cases hstep
    exact h.of_thread hthread rfl rfl rfl rfl (Or.inl rfl) (fun _ hmem ↦ hmem) (hmade rfl (by simp))
      (by simp) (by simp) False.elim False.elim
  · cases hkept
  · next point hcreate hstart =>
    cases hstep
    exact h.of_thread hthread rfl rfl rfl rfl (Or.inl rfl) (fun _ hmem ↦ hmem)
      (hmade rfl (by simpa using hstart)) (by simp) (by simp) False.elim False.elim
  · next call =>
    split at hstep
    · cases hstep
    next htruthful =>
    cases hstep
    have htrue (hnotFound : error = .notFound) : s.truthful call = true := by
      simpa [hnotFound] using htruthful
    refine h.of_thread hthread rfl rfl rfl rfl (Or.inl rfl) (fun _ hmem ↦ hmem) (hmade rfl (by simp))
      ?_ ?_ ?_ ?_
    · intro container hcontainer hsame
      cases hsame
      exact (of_decide_eq_true hkept).resolve_left (not_not.mpr hcontainer)
    · intro network hmem hsame
      cases hsame
      exact of_decide_eq_true hkept hmem
    · intro hget hnotFound
      have htrue := htrue hnotFound
      cases call with
      | get => exact of_decide_eq_true htrue
      | _ => exact hget.elim
    · intro hremove hnotFound
      have htrue := htrue hnotFound
      cases call with
      | remove found => exact hremove.resolve_right (of_decide_eq_true htrue)
      | _ => exact hremove.elim
  · cases hstep

/-! ## Every run -/

/-- **Every event that loses nothing keeps the invariant.** -/
theorem Owned.step {event : ShellEvent} (h : Owned s) (hkept : s.kept event = true)
    (hstep : s.step managed event = some s') : Owned s' := by
  have hidle (hne : ¬¬s.isIdle = true) : Held s := by
    refine h.held (made_of_task fun setup attempt thread htask ↦ hne ?_)
    simp [Shell.isIdle, htask]
  cases event with
  | start setup =>
    rw [Shell.step] at hstep
    split at hstep
    · cases hstep
    next hrest =>
    split at hstep
    · cases hstep
      exact (hidle hrest).owned_setTask trivial
    · cases hstep
      exact ((hidle hrest).spawn _ _).owned trivial
  | run =>
    rw [Shell.step] at hstep
    split at hstep
    · next hrest =>
      cases hstep
      refine ((hidle (not_not.mpr hrest)).spawn _ _).owned ?_
      change GetOk s.container _
      rw [getElem?_spawn]
      trivial
    · cases hstep
  | close =>
    rw [Shell.step] at hstep
    split at hstep
    · cases hstep
    next hrest =>
    split at hstep
    · cases hstep
      refine ((hidle hrest).spawn _ _).owned ?_
      change GetOk s.container _
      rw [getElem?_spawn]
      trivial
    · next hstarted =>
      cases hstep
      exact (hidle hrest).dropNetwork (fun hafter ↦ nomatch hafter)
        fun _ ↦ by simpa using hstarted
  | completes id zero =>
    obtain ⟨thread, hthread, hstep⟩ := Option.bind_eq_some_iff.mp hstep
    exact h.completes hthread hkept hstep
  | fails id error =>
    obtain ⟨thread, hthread, hstep⟩ := Option.bind_eq_some_iff.mp hstep
    exact h.fails hthread hkept hstep
  | resume =>
    simp only [Shell.step] at hstep
    split at hstep
    · next setup attempt heq =>
      cases hstep
      exact ((h.held (made_of_task (by simp [heq]))).spawn _ _).owned trivial
    · next result hsettled hne =>
      obtain ⟨thread, hawaited, hthread⟩ := Option.bind_eq_some_iff.mp hsettled
      exact h.resume hthread hawaited hkept hstep
    · cases hstep
  | expire => exact h.expire hkept hstep
  | cancel => exact h.cancel hkept hstep

theorem owned_start : Owned {} where
  container _ hcontainer := nomatch hcontainer
  networks _ hmem := nomatch hmem
  task := trivial

/-- **`close` leaves nothing behind**: when it returned and every call settled, in every run of events
that lose nothing, there is no container of the session and no network. -/
theorem close_leaves_nothing {events : List ShellEvent}
    (hkept : Meets (Shell.step managed) (fun s event ↦ s.kept event = true) {} events)
    (hrun : run (Shell.step managed) {} events = some s) (hclosed : s.task = .closed)
    (hsettled : ∀ thread ∈ s.threads, thread.isSettled = true) :
    s.container = none ∧ s.networks = [] := by
  have h : Owned s := run_keeps_of_meets owned_start (fun _ _ _ h hkept hstep ↦ h.step hkept hstep)
    hkept hrun
  have htask := h.task
  rw [hclosed] at htask
  have hheld := h.held (made_of_task (by simp [hclosed]))
  refine ⟨Option.eq_none_iff_forall_ne_some.mpr fun container hcontainer ↦ ?_,
    List.eq_nil_iff_forall_not_mem.mpr fun network hnetwork ↦ ?_⟩
  · rcases hheld.container container hcontainer with hstarted | hremoving
    · cases htask.1.symm.trans hstarted
    · cases hsettled _ hremoving
  · rcases hheld.networks network hnetwork with hkeeps | hremoving
    · cases htask.2.symm.trans hkeeps
    · cases hsettled _ hremoving

/-- A run of many troubles: a first attempt that fails, a pin that times out, a command that times out
and is cancelled while its container is removed. -/
def troubled : List ShellEvent :=
  [.start true, .completes 0 false, .completes 0 false, .fails 0 .docker, .resume, .resume,
    .completes 1 false, .completes 1 false, .completes 1 false, .resume, .completes 2 true, .resume,
    .completes 3 true, .resume, .fails 4 .other, .resume, .expire, .run, .completes 6 false, .resume,
    .completes 7 true, .resume, .expire, .cancel, .close, .completes 10 false, .resume,
    .completes 9 false, .fails 11 .notFound, .resume, .completes 12 false, .resume, .fails 8 .docker,
    .completes 5 true]

theorem close_leaves_nothing_troubled : ∃ s, run (Shell.step true) {} troubled = some s ∧
    s.container = none ∧ s.networks = [] := by
  have hkept : Meets (Shell.step true) (fun s event ↦ s.kept event = true) {} troubled := by decide
  exact ⟨_, rfl, close_leaves_nothing hkept rfl rfl (by decide)⟩

/-- **A cancelled `start` leaves its container behind**: the thread creates it after all, and `close`
does not know of it. -/
theorem close_leaves_cancelled_start : ¬∀ managed events s,
    run (Shell.step managed) {} events = some s → s.task = .closed →
    (∀ thread ∈ s.threads, thread.isSettled = true) → s.container = none ∧ s.networks = [] := by
  intro h
  have hleft := h false [.start false, .completes 0 false, .cancel, .completes 0 false,
    .completes 0 false, .close] _ rfl rfl (by decide)
  exact absurd hleft.1 (by decide)

/-- So does a start whose second half fails, in each of its attempts. -/
example : ∃ s, run (Shell.step false) {} ([.start false, .completes 0 false, .completes 0 false,
    .fails 0 .other, .resume, .close]) = some s ∧ s.task = .closed ∧ s.container ≠ none :=
  ⟨_, rfl, rfl, by decide⟩

/-- A network whose removal fails is forgotten. -/
example : ∃ s, run (Shell.step true) {} ([.start false, .completes 0 false, .completes 0 false,
    .cancel, .fails 0 .docker, .close, .fails 1 .docker, .resume]) = some s ∧ s.task = .closed ∧
      s.networks ≠ [] :=
  ⟨_, rfl, rfl, by decide⟩

end DockerShell

end HarnessTraining
