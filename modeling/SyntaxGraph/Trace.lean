/-!
# Computations that leave a trace

A computation ends with a value or an error; either way the trace of what it did until then stays.
-/
namespace SyntaxGraph

/-- What a computation did, and how it ended. -/
structure Traced (τ ε α : Type) where
  trace : List τ
  result : Except ε α

namespace Traced

variable {τ ε α β : Type}

protected def bind (first : Traced τ ε α) (second : α → Traced τ ε β) : Traced τ ε β :=
  match first.result with
  -- What was done before the failure stays.
  | .error e => ⟨first.trace, .error e⟩
  | .ok a =>
    let rest := second a
    ⟨first.trace ++ rest.trace, rest.result⟩

instance : Monad (Traced τ ε) where
  pure a := ⟨[], .ok a⟩
  bind := Traced.bind

def emit (mark : τ) : Traced τ ε Unit := ⟨[mark], .ok ()⟩

def fail (e : ε) : Traced τ ε α := ⟨[], .error e⟩

def each (step : α → Traced τ ε β) : List α → Traced τ ε (List β)
  | [] => pure []
  | a :: rest => do
    let b ← step a
    let others ← each step rest
    return b :: others

def mapTrace {σ : Type} (mark : τ → σ) (run : Traced τ ε α) : Traced σ ε α :=
  ⟨run.trace.map mark, run.result⟩

def mapError {δ : Type} (name : ε → δ) (run : Traced τ ε α) : Traced τ δ α :=
  ⟨run.trace, run.result.mapError name⟩

def ofExcept (result : Except ε α) : Traced τ ε α := ⟨[], result⟩

@[simp]
theorem result_pure (a : α) : (pure a : Traced τ ε α).result = .ok a := rfl

@[simp]
theorem result_emit (mark : τ) : (emit mark : Traced τ ε Unit).result = .ok () := rfl

@[simp]
theorem result_fail (e : ε) : (fail e : Traced τ ε α).result = .error e := rfl

@[simp]
theorem result_ofExcept (result : Except ε α) :
    (ofExcept result : Traced τ ε α).result = result := rfl

theorem result_bind (first : Traced τ ε α) (second : α → Traced τ ε β) :
    (first >>= second).result = first.result >>= fun a => (second a).result := by
  show (Traced.bind first second).result = _
  unfold Traced.bind
  cases first.result <;> rfl

end Traced

end SyntaxGraph
