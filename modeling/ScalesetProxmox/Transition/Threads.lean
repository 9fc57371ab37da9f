import Mathlib.Algebra.BigOperators.Group.List.Basic
import Mathlib.Algebra.GroupWithZero.Nat

/-!
# Interleaved threads over a shared state

Threads share one state. Firing thread `i` lets it take its next atomic step: the step
rewrites the shared state and replaces the thread by its successors, none when it has ended and
more than one when it has started others. Every interleaving is a choice of indices.

`forall_threads_fire` is the thread-modular rule: a predicate holds of all threads after a step when
the step establishes it for the successors and keeps it for every other thread. `sum_map_fire` is its
counterpart for what all threads hold together.
-/

namespace ScalesetProxmox.Transition

/-- Threads that share one state. -/
structure Concurrent (σ τ : Type*) where
  shared : σ
  threads : List τ

variable {σ τ : Type*} {next : σ → τ → Option (σ × List τ)} {system system' : Concurrent σ τ} {i : ℕ}

/-- Thread `i` takes one step and is replaced by its successors, unless the step is blocked. -/
def Concurrent.fire (next : σ → τ → Option (σ × List τ)) (system : Concurrent σ τ) (i : ℕ) :
    Option (Concurrent σ τ) :=
  match system.threads[i]? with
  | none => none
  | some thread =>
    (next system.shared thread).map fun after ↦
      { shared := after.1, threads := system.threads.eraseIdx i ++ after.2 }

theorem fire_eq_some :
    system.fire next i = some system' ↔ ∃ thread shared successors,
      system.threads[i]? = some thread ∧ next system.shared thread = some (shared, successors) ∧
      system' = ⟨shared, system.threads.eraseIdx i ++ successors⟩ := by
  unfold Concurrent.fire
  cases system.threads[i]? with
  | none => simp
  | some thread =>
    simp only [Option.map_eq_some_iff, Option.some.injEq]
    constructor
    · rintro ⟨⟨shared, successors⟩, hnext, rfl⟩
      exact ⟨thread, shared, successors, rfl, hnext, rfl⟩
    · rintro ⟨_, shared, successors, rfl, hnext, rfl⟩
      exact ⟨(shared, successors), hnext, rfl⟩

/-- The thread-modular rule: successors get the predicate, the other threads keep it. -/
theorem forall_threads_fire {I J : τ → Prop} {threads successors : List τ} (i : ℕ)
    (hinv : ∀ other ∈ threads, I other) (hsucc : ∀ other ∈ successors, J other)
    (hkeep : ∀ other ∈ threads.eraseIdx i, I other → J other) :
    ∀ other ∈ threads.eraseIdx i ++ successors, J other := by
  intro other hmem
  rcases List.mem_append.mp hmem with hother | hnew
  · exact hkeep other hother (hinv other (List.mem_of_mem_eraseIdx hother))
  · exact hsucc other hnew

/-- The thread that fires, followed by the others, is all threads in some order. -/
theorem cons_eraseIdx_perm {threads : List τ} {thread : τ} (h : threads[i]? = some thread) :
    (thread :: threads.eraseIdx i).Perm threads := by
  obtain ⟨hi, rfl⟩ := List.getElem?_eq_some_iff.mp h
  exact List.getElem_cons_eraseIdx_perm hi

/-- What the successors hold takes the place of what the thread held. -/
theorem sum_map_fire (f : τ → ℕ) {threads : List τ} {thread : τ} (h : threads[i]? = some thread)
    (successors : List τ) :
    ((threads.eraseIdx i ++ successors).map f).sum + f thread =
      (threads.map f).sum + (successors.map f).sum := by
  have hperm := ((cons_eraseIdx_perm h).map f).sum_eq
  rw [List.map_cons, List.sum_cons] at hperm
  rw [List.map_append, List.sum_append]
  omega

theorem countP_fire (p : τ → Bool) {threads : List τ} {thread : τ} (h : threads[i]? = some thread)
    (successors : List τ) :
    (threads.eraseIdx i ++ successors).countP p + (if p thread then 1 else 0) =
      threads.countP p + successors.countP p := by
  have hperm := (cons_eraseIdx_perm h).countP_eq p
  rw [List.countP_cons] at hperm
  rw [List.countP_append]
  omega

theorem sum_map_eq_countP {f : τ → ℕ} {p : τ → Bool} {threads : List τ}
    (h : ∀ thread ∈ threads, f thread = if p thread then 1 else 0) :
    (threads.map f).sum = threads.countP p := by
  induction threads with
  | nil => rfl
  | cons thread threads ih =>
    rw [List.map_cons, List.sum_cons, List.countP_cons, h thread List.mem_cons_self,
      ih fun other hother ↦ h other (List.mem_cons_of_mem thread hother), Nat.add_comm]

/-- Of what occurs once there are no two. -/
theorem eq_of_countP_le_one {p : τ → Bool} {threads : List τ} {a b : τ} (h : threads.countP p ≤ 1)
    (ha : a ∈ threads) (hpa : p a) (hb : b ∈ threads) (hpb : p b) : a = b := by
  rw [List.countP_eq_length_filter] at h
  have ha := List.mem_filter.mpr ⟨ha, hpa⟩
  have hb := List.mem_filter.mpr ⟨hb, hpb⟩
  obtain ⟨x, hx⟩ : ∃ x, threads.filter p = [x] :=
    List.length_eq_one_iff.mp (Nat.le_antisymm h (List.length_pos_of_mem ha))
  rw [hx, List.mem_singleton] at ha hb
  rw [ha, hb]

/-- A symmetric relation between any two threads holds between a thread and all others. -/
theorem forall_rel_eraseIdx {R : τ → τ → Prop} (hsymm : ∀ {a b}, R a b → R b a) {threads : List τ}
    {thread : τ} (hthread : threads[i]? = some thread) (h : threads.Pairwise R) :
    ∀ other ∈ threads.eraseIdx i, R thread other := by
  have hcons := ((cons_eraseIdx_perm hthread).pairwise_iff hsymm).mpr h
  exact (List.pairwise_cons.mp hcons).1

end ScalesetProxmox.Transition
