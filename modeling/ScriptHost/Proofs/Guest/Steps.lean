import ScriptHost.Guest.Code

/-!
# What guest code keeps

Other threads see guest code step by step, so a property of the world that is to hold between any
two steps must be kept by each of them.  `Code.Keeps` says so for all steps that code may come to.
-/

namespace ScriptHost.Guest.Code

open Ready (Finish)

variable {ω α β : Type} {P : ω → Prop}

/-- Every step of the code keeps a property of the world. -/
def Keeps (P : ω → Prop) : Code ω α → Prop
  | .finish _ => True
  | .step change next => (∀ w, P w → P (change w)) ∧ ∀ w, (next w).Keeps P
  | .await _ next => next.Keeps P

theorem Keeps.andThen {code : Code ω α} {next : α → Code ω β} (h : code.Keeps P)
    (hnext : ∀ a, (next a).Keeps P) : (code.andThen next).Keeps P := by
  induction code with
  | finish ending =>
      cases ending with
      | returned a => exact hnext a
      | raised message => trivial
      | panicked message => trivial
  | step change rest ih => exact ⟨h.1, fun w => ih w (h.2 w)⟩
  | await ready rest ih => exact ih h

/-- What code does next keeps the property, and so does the code that is left. -/
theorem Keeps.advance {code rest : Code ω α} (h : code.Keeps P) {w w' : ω} (hw : P w)
    (hadvance : code.advance w = (some (.inr rest), w')) : P w' ∧ rest.Keeps P := by
  cases code with
  | finish ending => cases hadvance
  | step change next =>
      cases hadvance
      exact ⟨h.1 w hw, h.2 w⟩
  | await ready next =>
      rw [Code.advance] at hadvance
      split at hadvance
      · cases hadvance
        exact ⟨hw, h⟩
      · cases hadvance

/-- What code may come to, step by step. -/
inductive Reaches (code : Code ω α) : Code ω α → Prop where
  | refl : Reaches code code
  | next {later rest : Code ω α} {w w' : ω} (h : Reaches code later)
      (hadvance : later.advance w = (some (.inr rest), w')) : Reaches code rest

/-- An ending changes nothing. -/
theorem advance_ending {code : Code ω α} {ending : Finish α} {w w' : ω}
    (h : code.advance w = (some (.inl ending), w')) : code = .finish ending ∧ w' = w := by
  cases code with
  | finish ending' =>
      cases h
      exact ⟨rfl, rfl⟩
  | step change next => cases h
  | await ready next =>
      rw [Code.advance] at h
      split at h <;> cases h

end ScriptHost.Guest.Code
