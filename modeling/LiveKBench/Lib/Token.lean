import Mathlib.Tactic.TypeStar
import Mathlib.Tactic.Lemma

/-! Tokens of one resource that move between their places. A step that keeps tokens where they are,
moves at most one, and makes one only where there was none leaves at most one if there was at most
one. -/
namespace LiveKBench.Lib

/-- What a step does to the tokens: `before` and `after` say in which places there is one, `moved`
from where to where one goes. -/
structure Conserves {τ : Type*} (before after : τ → Prop) (moved : Option (τ × τ))
    (made : Option τ) : Prop where
  origin : ∀ t, after t → (before t ∧ ∀ p, moved = some p → p.1 ≠ t) ∨
    (∃ a, moved = some (a,t) ∧ before a) ∨ (made = some t ∧ ∀ t', ¬before t')

namespace Conserves
variable {τ : Type*} {before after : τ → Prop} {moved : Option (τ × τ)} {made : Option τ}

theorem unique (h : Conserves before after moved made)
    (hb : ∀ t t', before t → before t' → t = t') : ∀ t t', after t → after t' → t = t' := by
  intro t t' ht ht'
  rcases h.origin t ht with ⟨hk,hne⟩ | ⟨a,hm,ha⟩ | ⟨hm,hnone⟩
  · rcases h.origin t' ht' with ⟨hk',-⟩ | ⟨a',hm',ha'⟩ | ⟨-,hnone'⟩
    · exact hb t t' hk hk'
    · exact absurd (hb a' t ha' hk) (hne _ hm')
    · exact absurd hk (hnone' t)
  · rcases h.origin t' ht' with ⟨hk',hne'⟩ | ⟨a',hm',-⟩ | ⟨-,hnone'⟩
    · exact absurd (hb a t' ha hk') (hne' _ hm)
    · cases hm.symm.trans hm'
      rfl
    · exact absurd ha (hnone' a)
  · rcases h.origin t' ht' with ⟨hk',-⟩ | ⟨a',-,ha'⟩ | ⟨hm',-⟩
    · exact absurd hk' (hnone t')
    · exact absurd ha' (hnone a')
    · exact Option.some.inj (hm.symm.trans hm')

end Conserves
end LiveKBench.Lib
