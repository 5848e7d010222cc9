import Mathlib.Data.Finset.Card
import Mathlib.Data.Rat.Cast.Order
import Mathlib.Algebra.Order.Field.Basic
import Mathlib.Tactic.Positivity
import Mathlib.Tactic.GCongr

/-! How far two finite sets are alike: the size of their intersection over that of their union, and
0 where both are empty. -/
namespace LiveKBench.Lib
variable {α : Type*} [DecidableEq α]

variable {a b : Finset α} {x : α}

end LiveKBench.Lib
