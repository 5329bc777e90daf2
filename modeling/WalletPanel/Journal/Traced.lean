import WalletPanel.Journal.Event

/-!
# Values with the events that led to them

A step of the panel is a pure function whose result is `Traced`: a value and the events of the step,
the oldest first. Steps are put together as a monad, in which events are strung together.
-/

namespace WalletPanel

/-- A value and the events that led to it. -/
structure Traced (α : Type) where
  value : α
  events : List Event

namespace Traced

instance : Monad Traced where
  pure a := ⟨a, []⟩
  bind x f := ⟨(f x.value).value, x.events ++ (f x.value).events⟩

def emit (e : Event) : Traced Unit := ⟨(), [e]⟩

@[simp] theorem value_pure (a : α) : (pure a : Traced α).value = a := rfl

@[simp] theorem events_pure (a : α) : (pure a : Traced α).events = [] := rfl

@[simp] theorem value_bind (x : Traced α) (f : α → Traced β) :
    (x >>= f).value = (f x.value).value := rfl

@[simp] theorem events_bind (x : Traced α) (f : α → Traced β) :
    (x >>= f).events = x.events ++ (f x.value).events := rfl

@[simp] theorem value_map (f : α → β) (x : Traced α) : (f <$> x).value = f x.value := rfl

@[simp] theorem events_map (f : α → β) (x : Traced α) : (f <$> x).events = x.events := by
  simp [Functor.map]

@[simp] theorem events_emit (e : Event) : (emit e).events = [e] := rfl

@[ext] theorem ext {x y : Traced α} (hv : x.value = y.value) (he : x.events = y.events) :
    x = y := by
  cases x; cases y; cases hv; cases he; rfl

instance : LawfulMonad Traced := LawfulMonad.mk' Traced
  (fun _ => ext rfl (by simp [Functor.map]))
  (fun _ _ => ext rfl (by simp))
  (fun _ _ _ => ext rfl (by simp))

end Traced

end WalletPanel
