import Mathlib.Data.List.Dedup
import Mathlib.Logic.Relation
import Mathlib.Tactic.Common

/-!
# Runs of transition systems

A transition system is a labelled relation `step : α → σ → σ → Prop`. `Reaches step` is its
reflexive transitive closure, with the rule by which an invariant of the steps becomes an invariant
of the runs (`Reaches.invariant`).

`CheckpointStep` adds rollback to a system: some labels set a checkpoint, some clear it, and at any
time the system may return to it. `checkpoint_reaches` eliminates the rollbacks: whatever state such
a system is in, and whatever checkpoint it holds, the system without rollback reaches it too, by the
run in which the steps that were rolled back never happened. Every invariant of the plain system is
therefore an invariant of the system with rollback.

`UnwindsOn` is noninterference for a deterministic system: steps that do not concern an observer do
not change what it sees, and for the others what it sees determines the output and what it sees
next. `UnwindsOn.purge` is the consequence for runs of any length. `Unwinds` is the case of an
observer with a view of the whole state, and `Unwinds.agree` compares two interleavings: if they
order the steps of the observer in the same way, the observer cannot tell them apart. `serial` is
the interleaving in which the owners of the steps take turns, each with all its steps, and
`perm_of_forall_filter_eq` puts the owners together again.
-/

set_option autoImplicit false
set_option relaxedAutoImplicit false

namespace SponsoredTx.Foundation.Runs

variable {α σ : Type*}

/-! ### Reachability -/

/-- Some run leads from the first state to the second. -/
def Reaches (step : α → σ → σ → Prop) : σ → σ → Prop :=
  Relation.ReflTransGen fun s s' ↦ ∃ a, step a s s'

namespace Reaches

variable {step : α → σ → σ → Prop} {s s' s'' : σ}

/-- The empty run. -/
theorem refl (s : σ) : Reaches step s s :=
  Relation.ReflTransGen.refl

/-- A run and one more step. -/
theorem tail (hreach : Reaches step s s') {a : α} (hstep : step a s' s'') : Reaches step s s'' :=
  Relation.ReflTransGen.tail hreach ⟨a, hstep⟩

/-- A property that every step preserves is preserved by every run. -/
theorem invariant {P : σ → Prop} (hpreserves : ∀ a s s', step a s s' → P s → P s')
    (hreach : Reaches step s s') (hinv : P s) : P s' := by
  induction hreach with
  | refl => exact hinv
  | tail _ hstep ih =>
    obtain ⟨a, hstep⟩ := hstep
    exact hpreserves a _ _ hstep ih

/-- A run with fewer steps allowed is a run. -/
theorem mono {step' : α → σ → σ → Prop} (hle : ∀ a s s', step a s s' → step' a s s')
    (hreach : Reaches step s s') : Reaches step' s s' := by
  induction hreach with
  | refl => exact refl s
  | tail _ hstep ih =>
    obtain ⟨a, hstep⟩ := hstep
    exact ih.tail (hle a _ _ hstep)

/-- One run after another. -/
theorem trans (hfirst : Reaches step s s') (hsecond : Reaches step s' s'') :
    Reaches step s s'' :=
  Relation.ReflTransGen.trans hfirst hsecond

end Reaches

/-! ### Rollback to a checkpoint -/

/-- What a label does with the checkpoint. -/
inductive Mark
  | keep
  | set
  | clear
  deriving DecidableEq, Repr

/-- A state together with the checkpoint to which it may be rolled back. -/
structure Checkpointed (σ : Type*) where
  now : σ
  checkpoint : Option σ

/-- The checkpoint after a step that leads to the given state. -/
def Mark.apply : Mark → Option σ → σ → Option σ
  | .keep, checkpoint, _ => checkpoint
  | .set, _, after => some after
  | .clear, _, _ => none

/-- A step of a system with rollback: a step of the system, which sets, keeps or clears the
checkpoint, or the return to the checkpoint. -/
inductive CheckpointStep (step : α → σ → σ → Prop) (mark : α → Mark) :
    Option α → Checkpointed σ → Checkpointed σ → Prop
  | advance {a : α} {c : Checkpointed σ} {after : σ} (hstep : step a c.now after) :
      CheckpointStep step mark (some a) c ⟨after, (mark a).apply c.checkpoint after⟩
  | revert {c : Checkpointed σ} {before : σ} (hcheckpoint : c.checkpoint = some before) :
      CheckpointStep step mark none c ⟨before, some before⟩

/-- Rollbacks can be eliminated: the current state and the checkpoint are both reached without
them. -/
theorem checkpoint_reaches {step : α → σ → σ → Prop} {mark : α → Mark} {s : σ}
    {c : Checkpointed σ} (hreach : Reaches (CheckpointStep step mark) ⟨s, none⟩ c) :
    Reaches step s c.now ∧ ∀ before, c.checkpoint = some before → Reaches step s before := by
  refine Reaches.invariant (P := fun c ↦ Reaches step s c.now ∧
    ∀ before, c.checkpoint = some before → Reaches step s before) ?_ hreach ⟨.refl s, by simp⟩
  rintro label c c' hstep ⟨hnow, hcheckpoint⟩
  cases hstep with
  | @advance a _ after hstep =>
    have hafter := hnow.tail hstep
    refine ⟨hafter, ?_⟩
    intro before hbefore
    cases hmark : mark a with
    | keep => exact hcheckpoint before (by simpa [hmark, Mark.apply] using hbefore)
    | set =>
      have heq : after = before := by simpa [hmark, Mark.apply] using hbefore
      exact heq ▸ hafter
    | clear => simp [hmark, Mark.apply] at hbefore
  | @revert _ before hbefore =>
    refine ⟨hcheckpoint before hbefore, ?_⟩
    intro before' hbefore'
    exact hcheckpoint before' (hbefore.trans hbefore')

/-! ### Noninterference -/

section Purge

variable {ι ω ν : Type*}

/-- The state after a sequence of steps of a deterministic system. -/
def runState (step : σ → ι → ω × σ) : σ → List ι → σ
  | s, [] => s
  | s, i :: rest => runState step (step s i).2 rest

/-- The outputs of those steps of a sequence that concern the observer. -/
def outputs (step : σ → ι → ω × σ) (concerns : ι → Bool) : σ → List ι → List ω
  | _, [] => []
  | s, i :: rest =>
    if concerns i then (step s i).1 :: outputs step concerns (step s i).2 rest
    else outputs step concerns (step s i).2 rest

/-- A property that every step of a sequence preserves is preserved by the sequence. -/
theorem runState_invariant {step : σ → ι → ω × σ} {P : σ → Prop} {is : List ι}
    (hpreserves : ∀ s, ∀ i ∈ is, P s → P (step s i).2) {s : σ} (hinv : P s) :
    P (runState step s is) := by
  induction is generalizing s with
  | nil => exact hinv
  | cons i rest ih =>
    refine ih ?_ (hpreserves s i List.mem_cons_self hinv)
    intro s' j hj
    exact hpreserves s' j (List.mem_cons_of_mem i hj)

/-- One sequence of steps after another. -/
theorem runState_append (step : σ → ι → ω × σ) (s : σ) (first second : List ι) :
    runState step s (first ++ second) = runState step (runState step s first) second := by
  induction first generalizing s with
  | nil => rfl
  | cons i rest ih => exact ih (step s i).2

/-- The unwinding conditions for an observer who cannot tell related states apart, is concerned by
some of the steps and meets allowed steps only: the other steps lead to nothing the observer can
see, and a step that concerns the observer has the same output in related states and leads to
related states. -/
structure UnwindsOn (step : σ → ι → ω × σ) (concerns : ι → Bool) (allowed : ι → Prop)
    (related : σ → σ → Prop) : Prop where
  invisible : ∀ s t i, allowed i → concerns i = false → related s t → related (step s i).2 t
  determined : ∀ s t i, allowed i → concerns i = true → related s t →
    (step s i).1 = (step t i).1 ∧ related (step s i).2 (step t i).2

/-- Deleting every step that does not concern the observer changes neither the outputs of the
remaining steps nor what the observer can see of the final state. -/
theorem UnwindsOn.purge {step : σ → ι → ω × σ} {concerns : ι → Bool} {allowed : ι → Prop}
    {related : σ → σ → Prop} (hunwinds : UnwindsOn step concerns allowed related) {is : List ι}
    (hallowed : ∀ i ∈ is, allowed i) {s t : σ} (hrelated : related s t) :
    outputs step concerns s is = outputs step (fun _ ↦ true) t (is.filter concerns) ∧
      related (runState step s is) (runState step t (is.filter concerns)) := by
  induction is generalizing s t with
  | nil => exact ⟨rfl, hrelated⟩
  | cons i rest ih =>
    obtain ⟨hi, hrest⟩ := List.forall_mem_cons.mp hallowed
    cases hconcerns : concerns i with
    | false =>
      rw [List.filter_cons_of_neg (by simp [hconcerns])]
      simp only [outputs, runState, hconcerns, Bool.false_eq_true, if_false]
      exact ih hrest (hunwinds.invisible s t i hi hconcerns hrelated)
    | true =>
      obtain ⟨houtput, hnext⟩ := hunwinds.determined s t i hi hconcerns hrelated
      obtain ⟨houtputs, hfinal⟩ := ih hrest hnext
      rw [List.filter_cons_of_pos hconcerns]
      simp only [outputs, runState, hconcerns, if_true]
      exact ⟨by rw [houtput, houtputs], hfinal⟩

/-- The unwinding conditions for an observer who sees `view` and is concerned by some of the steps:
the other steps are invisible, and the view determines the output of a step that concerns the
observer and the view after it. -/
structure Unwinds (step : σ → ι → ω × σ) (concerns : ι → Bool) (view : σ → ν) : Prop where
  invisible : ∀ s i, concerns i = false → view (step s i).2 = view s
  determined : ∀ s t i, concerns i = true → view s = view t →
    (step s i).1 = (step t i).1 ∧ view (step s i).2 = view (step t i).2

/-- Deleting every step that does not concern the observer changes neither the outputs of the
remaining steps nor the final view. -/
theorem Unwinds.purge {step : σ → ι → ω × σ} {concerns : ι → Bool} {view : σ → ν}
    (hunwinds : Unwinds step concerns view) (is : List ι) {s t : σ} (hview : view s = view t) :
    outputs step concerns s is = outputs step (fun _ ↦ true) t (is.filter concerns) ∧
      view (runState step s is) = view (runState step t (is.filter concerns)) := by
  have hon : UnwindsOn step concerns (fun _ ↦ True) (fun s t ↦ view s = view t) :=
    ⟨fun s t i _ hconcerns hview ↦ (hunwinds.invisible s i hconcerns).trans hview,
      fun s t i _ hconcerns hview ↦ hunwinds.determined s t i hconcerns hview⟩
  exact hon.purge (fun _ _ ↦ trivial) hview

/-- Two sequences with the same steps that concern the observer, in the same order, give the same
outputs of these steps and the same final view. -/
theorem Unwinds.agree {step : σ → ι → ω × σ} {concerns : ι → Bool} {view : σ → ν}
    (hunwinds : Unwinds step concerns view) {is js : List ι}
    (hsame : is.filter concerns = js.filter concerns) (s : σ) :
    outputs step concerns s is = outputs step concerns s js ∧
      view (runState step s is) = view (runState step s js) := by
  obtain ⟨houtputs, hview⟩ := hunwinds.purge is (rfl : view s = view s)
  obtain ⟨houtputs', hview'⟩ := hunwinds.purge js (rfl : view s = view s)
  rw [hsame] at houtputs hview
  exact ⟨houtputs.trans houtputs'.symm, hview.trans hview'.symm⟩

end Purge

/-! ### Interleavings -/

section Interleavings

variable {ι κ : Type*} [DecidableEq κ]

/-- Lists that agree on the elements of every owner are permutations of each other. -/
theorem perm_of_forall_filter_eq [DecidableEq ι] (owner : ι → κ) {is js : List ι}
    (hsame : ∀ k, (is.filter fun i ↦ owner i = k) = js.filter fun i ↦ owner i = k) :
    is.Perm js := by
  rw [List.perm_iff_count]
  intro i
  have hcount := congrArg (List.count i) (hsame (owner i))
  rwa [List.count_filter (by simp), List.count_filter (by simp)] at hcount

/-- The elements of a sequence owner by owner; elements without an owner are dropped. -/
def serial (owner : ι → Option κ) (is : List ι) : List ι :=
  (is.filterMap owner).dedup.flatMap fun k ↦ is.filter fun i ↦ owner i = some k

/-- Of several lists with different keys, the one with a given key is left. -/
theorem flatMap_ite_of_nodup {ks : List κ} (hks : ks.Nodup) (k : κ) (is : List ι) :
    (ks.flatMap fun k' ↦ if k' = k then is else []) = if k ∈ ks then is else [] := by
  induction ks with
  | nil => rfl
  | cons k' rest ih =>
    obtain ⟨hnotMem, hrest⟩ := List.nodup_cons.mp hks
    rw [List.flatMap_cons, ih hrest]
    by_cases hk : k' = k
    · subst hk
      simp [hnotMem]
    · simp [hk, Ne.symm hk]

/-- Taking turns does not change the order of any owner's elements. -/
theorem filter_serial (owner : ι → Option κ) (is : List ι) (k : κ) :
    ((serial owner is).filter fun i ↦ owner i = some k) =
      is.filter fun i ↦ owner i = some k := by
  have howned : ∀ k', ((is.filter fun i ↦ owner i = some k').filter fun i ↦ owner i = some k) =
      if k' = k then is.filter fun i ↦ owner i = some k else [] := by
    intro k'
    rw [List.filter_filter]
    split_ifs with hk
    · subst hk
      simp
    · refine List.filter_eq_nil_iff.mpr fun i _ ↦ ?_
      simp only [Bool.and_eq_true, decide_eq_true_eq, not_and]
      intro hi hi'
      exact hk (Option.some.inj (hi'.symm.trans hi))
  rw [serial, List.filter_flatMap]
  simp only [howned]
  rw [flatMap_ite_of_nodup (List.nodup_dedup _)]
  split_ifs with hmem
  · rfl
  · -- Nobody with this key takes a turn, so no element has it.
    refine (List.filter_eq_nil_iff.mpr fun i hi ↦ ?_).symm
    simp only [decide_eq_true_eq]
    intro howner
    exact hmem (List.mem_dedup.mpr (List.mem_filterMap.mpr ⟨i, hi, howner⟩))

end Interleavings

end SponsoredTx.Foundation.Runs
