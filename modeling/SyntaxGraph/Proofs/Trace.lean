import SyntaxGraph.Trace

/-!
# Laws of computations that leave a trace
-/
namespace SyntaxGraph

variable {τ ε α β δ : Type} {e : ε} {a : α}

@[simp]
theorem ok_bind (a : α) (second : α → Except ε β) : (Except.ok a >>= second) = second a := rfl

theorem exists_of_bind_eq_ok {first : Except ε α} {second : α → Except ε β} {b : β}
    (ended : first >>= second = .ok b) : ∃ a, first = .ok a ∧ second a = .ok b := by
  cases first with
  | error e => cases ended
  | ok a => exact ⟨a, rfl, ended⟩

theorem exists_of_map_eq_ok {first : Except ε α} {f : α → β} {b : β}
    (ended : first.map f = .ok b) : ∃ a, first = .ok a ∧ f a = b := by
  cases first with
  | error e => cases ended
  | ok a => exact ⟨a, rfl, Except.ok.inj ended⟩

theorem error_of_map_eq_error {first : Except ε α} {f : α → β} (failed : first.map f = .error e) :
    first = .error e := by
  cases first with
  | error cause => exact congrArg _ (Except.error.inj failed)
  | ok a => cases failed

@[simp]
theorem ok_mapError (a : α) (name : ε → δ) : (Except.ok a : Except ε α).mapError name = .ok a := rfl

theorem ok_of_mapError {first : Except ε α} {name : ε → δ} (ended : first.mapError name = .ok a) :
    first = .ok a := by
  cases first with
  | error e => cases ended
  | ok b => exact congrArg Except.ok (Except.ok.inj ended)

namespace Traced

variable {first : Traced τ ε α} {second : α → Traced τ ε β}

theorem bind_of_ok (ended : first.result = .ok a) (second : α → Traced τ ε β) :
    first >>= second = ⟨first.trace ++ (second a).trace, (second a).result⟩ := by
  show Traced.bind first second = _
  simp only [Traced.bind, ended]

theorem bind_of_error (ended : first.result = .error e) (second : α → Traced τ ε β) :
    first >>= second = ⟨first.trace, .error e⟩ := by
  show Traced.bind first second = _
  simp only [Traced.bind, ended]

@[simp]
theorem pure_bind (a : α) (second : α → Traced τ ε β) : (pure a >>= second) = second a := rfl

@[simp]
theorem bind_pure (run : Traced τ ε α) : (run >>= fun a => pure a) = run := by
  cases ended : run.result with
  | error e =>
    rw [bind_of_error ended, ← ended]
  | ok a =>
    rw [bind_of_ok ended, result_pure, ← ended]
    show Traced.mk (run.trace ++ []) run.result = run
    rw [List.append_nil]

/-- A mark that is left first stands first in the trace. -/
@[simp]
theorem emit_bind (mark : τ) (second : Unit → Traced τ ε β) :
    (emit mark >>= second) = ⟨mark :: (second ()).trace, (second ()).result⟩ := rfl

@[simp]
theorem ofExcept_ok_bind (a : α) (second : α → Traced τ ε β) :
    (ofExcept (.ok a) >>= second) = second a := rfl

/-- To mark a sequence anew is to mark its parts anew. -/
theorem mapTrace_bind {σ : Type} (mark : τ → σ) (first : Traced τ ε α)
    (second : α → Traced τ ε β) :
    (first >>= second).mapTrace mark =
      first.mapTrace mark >>= fun a => (second a).mapTrace mark := by
  cases ended : first.result with
  | error e =>
    have marked : (first.mapTrace mark).result = .error e := ended
    rw [bind_of_error ended, bind_of_error marked]
    rfl
  | ok a =>
    have marked : (first.mapTrace mark).result = .ok a := ended
    rw [bind_of_ok ended, bind_of_ok marked]
    simp [mapTrace]

/-- The computation ends with a value. -/
def Succeeds (run : Traced τ ε α) : Prop := ∃ a, run.result = .ok a

theorem succeeds_pure (a : α) : (pure a : Traced τ ε α).Succeeds := ⟨a, rfl⟩

theorem Succeeds.bind (here : first.Succeeds) (behind : ∀ a, (second a).Succeeds) :
    (first >>= second).Succeeds := by
  obtain ⟨a, ended⟩ := here
  obtain ⟨b, finished⟩ := behind a
  exact ⟨b, by rw [bind_of_ok ended, finished]⟩

/-- How the computation ends: with a value of one sort, or with an error of another. -/
def Ends (good : α → Prop) (bad : ε → Prop) (run : Traced τ ε α) : Prop :=
  match run.result with
  | .ok a => good a
  | .error e => bad e

namespace Ends

variable {good : α → Prop} {fine : β → Prop} {bad : ε → Prop} {run : Traced τ ε α}

theorem of_result (ends : run.Ends good bad) (ended : run.result = .ok a) : good a := by
  rw [Ends, ended] at ends
  exact ends

theorem of_error (ends : run.Ends good bad) (ended : run.result = .error e) : bad e := by
  simpa only [Ends, ended] using ends

theorem imp {other : α → Prop} (ends : run.Ends good bad) (implies : ∀ a, good a → other a) :
    run.Ends other bad := by
  unfold Ends at ends ⊢
  split at ends
  · exact implies _ ends
  · exact ends

theorem pure (holds : good a) : (pure a : Traced τ ε α).Ends good bad := holds

theorem fail (holds : bad e) : (fail e : Traced τ ε α).Ends good bad := holds

theorem emit (mark : τ) : (emit mark : Traced τ ε Unit).Ends (fun _ => True) bad := trivial

theorem bind (here : first.Ends good bad) (behind : ∀ a, good a → (second a).Ends fine bad) :
    (first >>= second).Ends fine bad := by
  cases ended : first.result with
  | error e =>
    rw [Ends, ended] at here
    rw [bind_of_error ended]
    exact here
  | ok a =>
    rw [bind_of_ok ended]
    exact behind a (here.of_result ended)

/-- Of two ways that go on alike, the second may rest on what holds of how the first goes on. -/
theorem ite_bind {c : Prop} [Decidable c] {yes : Traced τ ε α} {no : Traced τ ε β}
    (first : yes.Ends good bad)
    (other : (∀ a, good a → (second a).Ends fine bad) → no.Ends fine bad)
    (behind : ∀ a, good a → (second a).Ends fine bad) :
    (if c then yes >>= second else no).Ends fine bad := by
  split
  · exact first.bind behind
  · exact other behind

/-- Errors that are named anew may have any new name. -/
theorem mapError {name : ε → δ} {worse : δ → Prop} (all : ∀ e, worse (name e))
    (run : Traced τ ε α) : (run.mapError name).Ends (fun _ => True) worse := by
  unfold Ends Traced.mapError
  cases run.result with
  | error e => exact all e
  | ok a => trivial

theorem each {step : α → Traced τ ε β} {items : List α}
    (steps : ∀ a ∈ items, (step a).Ends fine bad) :
    (each step items).Ends (fun values => ∀ b ∈ values, fine b) bad := by
  induction items with
  | nil => exact pure (by simp)
  | cons a rest ih =>
    refine (steps a (by simp)).bind fun b first => ?_
    refine (ih fun a member => steps a (by simp [member])).bind fun others later => ?_
    exact pure (List.forall_mem_cons.2 ⟨first, later⟩)

end Ends

end Traced

end SyntaxGraph
