import TickTree.Proofs.Course

/-!
# Laws of steps

Many laws compare the scene before an evaluation with the scene after it: something has grown, or
is still there, or can be told from what was reported. Such a law is a relation between scenes that
is reflexive and transitive. If the entries of loops and trees respect it, and so do shuffles, then
it holds for every evaluation of nodes of which the leaves respect it. Which status a node returns,
and which node is ticked next, makes no difference.

## Main definitions

* `Scene.StepLaw`: relations between scenes that all steps but those of leaves respect

## Main results

* `StepLaw.of_answers`: such a relation holds between the scenes before and after an evaluation
-/

namespace TickTree

variable {L C E : Type}

/-- A relation between the scenes before and after something that happens, which all steps respect
except perhaps those of leaves. -/
structure Scene.StepLaw (R : Scene L C E → Scene L C E → Prop) : Prop where
  refl : ∀ s, R s s
  trans : ∀ {s u t}, R s u → R u t → R s t
  /-- A loop or a tree reports how it ends. -/
  report : ∀ s e, (∀ what, e ≠ .note what) → R s (s.report e)
  /-- A decorator finds that it has no child. -/
  unbound : ∀ s d, R s (s.log (.unbound d))
  /-- A random selector draws an order. -/
  shuffled : ∀ s n, R s (s.shuffled n)

namespace Scene.StepLaw

variable [Leaf L C E] {R : Scene L C E → Scene L C E → Prop}

/-- A step law passes from the leaves to the behaviors that are put together from them. -/
theorem closed (h : StepLaw R) {parts : Node L → Prop}
    (hleaf : ∀ l, parts (.leaf l) → ∀ s v t, Behavior.leaf l s = some (v, t) → R s t) :
    Behavior.Closed (fun b _ => ∀ s v t, b s = some (v, t) → R s t) parts where
  stuck _ _ _ _ ht := nomatch ht
  answer _ s _ _ ht := by
    obtain ⟨-, rfl⟩ := Prod.mk.inj (Option.some.inj ht)
    exact h.refl s
  andThen hb hnext s v t ht := by
    rcases Behavior.andThen_eq_some_iff.1 ht with ⟨status, u, hs, hu⟩ | ⟨fault, hs, -⟩
    · exact h.trans (hb s _ u hs) (hnext status u v t hu)
    · exact hb s _ t hs
  note {event} _ hevent s _ _ ht := by
    obtain ⟨-, rfl⟩ := Prod.mk.inj (Option.some.inj ht)
    refine h.report s event ?_
    rintro what rfl
    exact nomatch hevent
  leaf l hl := hleaf l hl
  unbound d _ s _ _ ht := by
    obtain ⟨-, rfl⟩ := Prod.mk.inj (Option.some.inj ht)
    exact h.unbound s d
  guarded {d child b b'} ticks _ hb s v t ht := by
    cases hc : d.watched.any s.world.flags.isCancelled with
    | true =>
      rw [Behavior.guarded_of_cancelled ticks b hc] at ht
      obtain ⟨-, rfl⟩ := Prod.mk.inj (Option.some.inj ht)
      -- The warning of a loop is no report of a leaf.
      refine h.report s _ fun what => ?_
      cases d <;> simp [Decorator.warning]
    | false =>
      rw [Behavior.guarded_of_not_cancelled ticks b hc] at ht
      exact hb s v t ht
  shuffled {n next next'} hnext s v t ht := h.trans (h.shuffled s n) (hnext _ _ v t ht)

/-- A step law holds between the scenes before and after an evaluation. -/
theorem of_answers (h : StepLaw R) {task : Task L}
    (hleaf : ∀ l, PartOf (.leaf l) task.nodes →
      ∀ s v t, Behavior.leaf l s = some (v, t) → R s t)
    {s t : Scene L C E} {v : Verdict} (ht : task.Answers s v t) : R s t := by
  obtain ⟨limit, hlimit⟩ := ht
  have hclosed : Behavior.Closed _ (PartOf · task.nodes) := h.closed hleaf
  exact hclosed.task (fun _ hp => hp) (Nat.le_refl limit) s v t hlimit

end Scene.StepLaw

end TickTree
