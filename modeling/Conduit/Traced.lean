/-! # Results with a trace

The code of a stage may leave a trace: the events it reports, in order. A traced
result is the result together with these events, and nothing else: such code can
neither read nor change what was reported before it.
-/

namespace Conduit

/-- A result and the events reported on the way to it. -/
structure Traced (ε α : Type) where
  events : List ε
  result : α

namespace Traced

variable {ε α β : Type}

@[ext] theorem ext {t u : Traced ε α} (events : t.events = u.events)
    (result : t.result = u.result) : t = u := by
  cases t; cases u; simp_all

/-- Reports one event. -/
def report (event : ε) : Traced ε Unit := ⟨[event], ()⟩

instance : Monad (Traced ε) where
  pure x := ⟨[], x⟩
  bind t f :=
    let u := f t.result
    ⟨t.events ++ u.events, u.result⟩

@[simp] theorem events_pure (x : α) : (pure x : Traced ε α).events = [] := rfl
@[simp] theorem result_pure (x : α) : (pure x : Traced ε α).result = x := rfl

@[simp] theorem events_bind (t : Traced ε α) (f : α → Traced ε β) :
    (t >>= f).events = t.events ++ (f t.result).events := rfl

@[simp] theorem result_bind (t : Traced ε α) (f : α → Traced ε β) :
    (t >>= f).result = (f t.result).result := rfl

instance : LawfulMonad (Traced ε) := LawfulMonad.mk' (Traced ε)
  (fun t => by ext1 <;> simp [Functor.map])
  (fun x f => by ext1 <;> simp)
  (fun t f g => by ext1 <;> simp)

end Traced

/-- A record of events, to which traced results add theirs at the end. -/
abbrev Recorder (ε : Type) := StateM (Array ε)

instance {ε : Type} : MonadLift (Traced ε) (Recorder ε) where
  monadLift t := fun log => (t.result, t.events.foldl Array.push log)

end Conduit
