import LiveKBench.Lib.SharedDatabase
import Mathlib.Order.Defs.Unbundled

/-! A shared database whose statements all lead forward in a preorder. Then what is committed is
never ahead of what is not, and no connection is ever led back. -/
namespace LiveKBench.Lib
namespace Shared
variable {σ α : Type*} {R : σ → σ → Prop} {s s' : Shared σ} {c : ℕ}

/-- From one state to the next, every connection is led forward. -/
structure Advances (R : σ → σ → Prop) (s s' : Shared σ) : Prop where
  view : ∀ c, R (s.view c) (s'.view c)
  current : R s.current s'.current
  ahead : R s'.committed s'.current

variable [Std.Refl R]

theorem view_to_current (h : R s.committed s.current) (c : ℕ) : R (s.view c) s.current := by
  rcases s.view_eq c with he | he
  · exact he ▸ refl_of R _
  · exact he ▸ h

theorem advances_refl (h : R s.committed s.current) : s.Advances R s :=
  ⟨fun _ => refl_of R _,refl_of R _,h⟩

theorem Executes.advances [IsTrans σ R] {f : σ → σ × α} {a : α} (hx : s.Executes c f s' a)
    (h : R s.committed s.current) (hf : R s.current (f s.current).1) : s.Advances R s' := by
  have hcurrent : R s.current s'.current := hx.current ▸ hf
  refine ⟨fun c' => ?_,hcurrent,?_⟩
  · rw [hx.view_eq]
    split
    · exact trans_of R (view_to_current h c') hcurrent
    · exact refl_of R _
  · rw [hx.committed]
    exact trans_of R h hcurrent

theorem advances_commit (h : R s.committed s.current) (c : ℕ) : s.Advances R (s.commit c) := by
  refine ⟨fun c' => ?_,?_,?_⟩
  · rcases s.view_commit c c' with he | ⟨he,hbefore⟩
    · exact he ▸ refl_of R _
    · exact he ▸ hbefore ▸ h
  · rw [current_commit]
    exact refl_of R _
  · rw [committed_commit,current_commit]
    exact view_to_current h c

end Shared
end LiveKBench.Lib
