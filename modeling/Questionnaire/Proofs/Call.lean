import Questionnaire.Call

/-!
# What every call does

A relation between the state before a call, the state after it and what was sent holds of
every call that is put together from calls of which it holds, if it holds of doing nothing
and of one thing after another.  Calls that return more often than others make up calls
that do so too.
-/

namespace Questionnaire
namespace Call

variable {σ τ κ ι α β : Type} {holds : σ → σ → List (Delivery κ) → Prop}

/-- Whenever a call returns, the relation holds of what it did. -/
def Ensures (holds : σ → σ → List (Delivery κ) → Prop) (call : Call σ κ α) : Prop :=
  ∀ state turn, call state = some turn → holds state turn.next turn.sent

/-- A relation that holds of doing nothing, and of one thing after another. -/
structure Composes (holds : σ → σ → List (Delivery κ) → Prop) : Prop where
  nothing : ∀ state, holds state state []
  followed : ∀ {first second third sent more},
    holds first second sent → holds second third more → holds first third (sent ++ more)

namespace Ensures

theorem pure (composes : Composes holds) (value : α) :
    Ensures holds (Pure.pure value : Call σ κ α) := by
  intro state turn returned
  cases returned
  exact composes.nothing state

theorem fail (composes : Composes holds) (error : DispatchError) :
    Ensures holds (Call.fail error : Call σ κ α) := by
  intro state turn returned
  cases returned
  exact composes.nothing state

theorem present (composes : Composes holds) : Ensures holds (Call.present : Call σ κ σ) := by
  intro state turn returned
  cases returned
  exact composes.nothing state

theorem stuck : Ensures holds (Call.stuck : Call σ κ α) := by
  intro state turn returned
  simp at returned

theorem change
    {f : σ → σ}
    (changed : ∀ state, holds state (f state) []) :
    Ensures holds (Call.change f : Call σ κ Unit) := by
  intro state turn returned
  cases returned
  exact changed state

theorem bind
    {first : Call σ κ α}
    {second : α → Call σ κ β}
    (composes : Composes holds)
    (before : Ensures holds first)
    (after : ∀ value, Ensures holds (second value)) :
    Ensures holds (first >>= second) := by
  intro state turn returned
  rw [bind_apply] at returned
  cases called : first state with
  | none => simp [called] at returned
  | some opening =>
    have held := before state opening called
    obtain ⟨next, error | value, sent⟩ := opening
    · simp only [called, Option.some.injEq] at returned
      subst returned
      exact held
    · simp only [called] at returned
      obtain ⟨later, laterReturned, rfl⟩ := Option.map_eq_some_iff.1 returned
      exact composes.followed held (after value next later laterReturned)

/-- A call on a part of the state does what holds of putting the part back. -/
theorem within
    {focus : σ → τ}
    {settle : σ → τ → List (Delivery ι) → σ × List (Delivery κ)}
    {call : Call τ ι α}
    (settled : ∀ state turn, call (focus state) = some turn →
      holds state (settle state turn.next turn.sent).1 (settle state turn.next turn.sent).2) :
    Ensures holds (Call.within focus settle call) := by
  intro state turn returned
  obtain ⟨part, called, rfl⟩ := Option.map_eq_some_iff.1 returned
  exact settled state part called

end Ensures

/-! ## Calls that return more often -/

/-- A call returns whenever another one does, and does the same then. -/
def Extends (larger call : Call σ κ α) : Prop :=
  ∀ state turn, call state = some turn → larger state = some turn

namespace Extends

theorem refl (call : Call σ κ α) : Extends call call :=
  fun _ _ returned => returned

theorem stuck (larger : Call σ κ α) : Extends larger Call.stuck := by
  intro state turn returned
  simp at returned

theorem bind
    {largerFirst first : Call σ κ α}
    {largerSecond second : α → Call σ κ β}
    (before : Extends largerFirst first)
    (after : ∀ value, Extends (largerSecond value) (second value)) :
    Extends (largerFirst >>= largerSecond) (first >>= second) := by
  intro state turn returned
  rw [bind_apply] at returned ⊢
  cases called : first state with
  | none => simp [called] at returned
  | some opening =>
    rw [before state opening called]
    obtain ⟨next, error | value, sent⟩ := opening
    · simpa only [called] using returned
    · simp only [called] at returned
      obtain ⟨later, laterReturned, rfl⟩ := Option.map_eq_some_iff.1 returned
      simp only [after value next later laterReturned, Option.map_some]

end Extends
end Call
end Questionnaire
