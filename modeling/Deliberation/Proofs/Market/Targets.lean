import Deliberation.Proofs.Market.Cycles
import Deliberation.Proofs.Market.Ledgers

/-!
# Targets of traders

The target of a trader waits to be adopted, and then it is held until the book shows enough sales.
What the book shows has been sold, so `Trader.Aims`: a trader has its target, or it has met it.
Errands leave the goals alone, and each of them makes the book show no more than it sells
(`Errand.Done.keeps`); goals change only when a cycle begins (`Trader.Aims.begin`).
-/

namespace Deliberation.Market

open Population (traderId)

/-- The number of sales that a trader has booked. -/
def History.sales (history : History) (seller : AgentId) : Nat :=
  history.sold.countP fun trade => trade.seller = seller

/-- The sales of a longer history are those of its parts. -/
theorem History.sales_append (history later : History) (seller : AgentId) :
    (history ++ later).sales seller = history.sales seller + later.sales seller := by
  simp [sales, sold, List.countP_append]

/-- Sales do not depend on the order of the actions. -/
theorem History.sales_perm {history other : History} (perm : history.Perm other)
    (seller : AgentId) : history.sales seller = other.sales seller :=
  (perm.filterMap _).countP_eq _

/-- The counter of a book may wrap around, but it never runs ahead. -/
theorem Book.sold_recordSale_le (book : Book) :
    book.recordSale.sold.toNat ≤ book.sold.toNat + 1 := by
  unfold recordSale
  rw [UInt32.toNat_add]
  exact Nat.mod_le _ _

/-! ## Errands leave goals alone -/

/-- A trader keeps its goals while some of its sales are booked. -/
structure Trader.Keeps (before after : Trader) (sales : Nat) : Prop where
  goals : after.goals = before.goals
  wishes : after.wishes = before.wishes
  booked : after.book.sold.toNat ≤ before.book.sold.toNat + sales

/-- A trader that is posted to keeps its book. -/
theorem Trader.Keeps.posted (state : Trader) (mail : List Message) (sales : Nat) :
    state.Keeps { state with mail } sales where
  goals := rfl
  wishes := rfl
  booked := Nat.le_add_right _ _

section Errands

variable {count : Nat} {number : BirthNumber} {traders after : Nat → Trader}

/-- What an errand adds to a book is sold by its action. -/
theorem Errand.Done.keeps {errand : Errand} {action : TradeAction}
    (done : errand.Done count number traders after action) (index : Nat) :
    (traders index).Keeps (after index)
      (History.sales [(traderId number, action)] (traderId index)) := by
  cases done with
  | @offer price book drawn =>
    have sold : book.sold = (traders number).book.sold := by
      cases congrArg Prod.snd drawn
      rfl
    obtain ⟨mail, posted⟩ := postAll_eq (priced (traderId number) Market.offer price)
      (others count number) (Function.update traders number { traders number with book }) index
    rw [posted]
    by_cases same : index = number
    · subst same
      rw [Function.update_self]
      exact { goals := rfl, wishes := rfl, booked := sold ▸ Nat.le_add_right _ _ }
    · rw [Function.update_of_ne same]
      exact .posted _ mail _
  | @accept seller price inside word =>
    obtain ⟨mail, posted⟩ := post_eq
      ((priced (traderId number) acceptance price).addressedTo (traderId seller)) traders seller
      index
    rw [posted]
    exact .posted _ mail _
  | book buyer price =>
    by_cases same : index = number
    · subst same
      rw [Function.update_self]
      have single : History.sales [(traderId index, .sold buyer price)] (traderId index) = 1 := by
        simp [History.sales, History.sold]
      rw [single]
      exact { goals := rfl, wishes := rfl, booked := (traders index).book.sold_recordSale_le }
    · rw [Function.update_of_ne same]
      exact .posted _ _ _

/-- What errands add to a book is sold by their actions. -/
theorem Toil.keeps {errands : List Errand} {actions : List TradeAction}
    (toil : Toil count number traders errands after actions) (index : Nat) :
    (traders index).Keeps (after index)
      (History.sales (actions.map fun action => (traderId number, action)) (traderId index)) := by
  induction toil with
  | rest traders => exact .posted _ _ _
  | @work traders middle after errand errands action actions done others ih =>
    have first := done.keeps index
    have sales := History.sales_append [(traderId number, action)]
      (actions.map fun action => (traderId number, action)) (traderId index)
    exact
      { goals := ih.goals.trans first.goals
        wishes := ih.wishes.trans first.wishes
        booked := by
          rw [List.map_cons, ← List.singleton_append, sales]
          have earlier := first.booked
          have later := ih.booked
          omega }

end Errands

/-! ## On the way to a target -/

/-- The goals that a trader holds and those that wait to be adopted. -/
def Trader.ambitions (state : Trader) : List (GoalHandle vocabulary) := state.goals ++ state.wishes

/-- A trader that goes on selling keeps its ambitions. -/
theorem Trader.Keeps.ambitions {before after : Trader} {sales : Nat}
    (kept : before.Keeps after sales) : after.ambitions = before.ambitions := by
  unfold Trader.ambitions
  rw [kept.goals, kept.wishes]

/-- A trader that has made some sales has its target, unless it has met it. -/
structure Trader.Aims (population : Population) (index sales : Nat) (state : Trader) : Prop where
  /-- The book shows no more than was sold. -/
  booked : state.book.sold.toNat ≤ sales
  /-- The target is held or waits to be adopted, or enough was sold. -/
  target : state.ambitions = [population.target index] ∨
    state.ambitions = [] ∧ population.salesTarget ≤ sales

namespace Trader.Aims

variable {population : Population} {index sales : Nat} {state after : Trader}

/-- A trader that goes on selling still aims at its target. -/
theorem keeps (aims : state.Aims population index sales) {more : Nat}
    (kept : state.Keeps after more) : after.Aims population index (sales + more) where
  booked := by
    have before := aims.booked
    have shown := kept.booked
    omega
  target := by
    rw [kept.ambitions]
    exact aims.target.imp_right fun met => ⟨met.1, Nat.le_add_right_of_le met.2⟩

/-- A trader adopts its target, whether it held it or not. -/
theorem adopted (aims : state.Aims population index sales) :
    state.adopted = state.ambitions := by
  have short : state.ambitions.length ≤ 1 := by
    rcases aims.target with has | ⟨none, -⟩
    · rw [has]
      exact Nat.le_refl _
    · rw [none]
      exact Nat.zero_le _
  unfold Trader.ambitions at short ⊢
  unfold Trader.adopted
  cases waiting : state.wishes with
  | nil => simp
  | cons handle rest =>
    rw [waiting, List.length_append, List.length_cons] at short
    have held : state.goals = [] := List.eq_nil_of_length_eq_zero (by omega)
    have last : rest = [] := List.eq_nil_of_length_eq_zero (by omega)
    subst last
    simp [held, adopt]

/-- A trader that goes on with a target has not reached it. -/
theorem targets (aims : state.Aims population index sales) :
    state.targets = [population.target index] ∨
      state.targets = [] ∧ population.salesTarget ≤ sales := by
  unfold Trader.targets
  rw [aims.adopted]
  rcases aims.target with has | ⟨none, enough⟩
  · rw [has]
    cases reached : state.book.reaches (population.target index).goal with
    | false => exact .inl (by simp [reached])
    | true =>
      have shown : population.salesTarget ≤ state.book.sold.toNat := of_decide_eq_true reached
      exact .inr ⟨by simp [reached], shown.trans aims.booked⟩
  · exact .inr ⟨by simp [none], enough⟩

/-- When a cycle begins, a target that is reached is dropped. -/
theorem begin (aims : state.Aims population index sales) :
    ({ book := state.book, mail := [], wishes := [], goals := state.targets
       plans := [] } : Trader).Aims population index sales where
  booked := aims.booked
  target := by simpa [Trader.ambitions] using aims.targets

/-- A trader with something to aim at wants its target, as long as no plan pursues it. -/
theorem wanted (aims : state.Aims population index sales) (some : state.targets ≠ [])
    {pursuit : Pursuit} (calm : ∀ goal, pursuit.isPursued goal = false) :
    Wanted pursuit state.targets := by
  rcases aims.targets with has | ⟨none, -⟩
  · rw [has]
    exact ⟨_, List.mem_singleton_self _, ⟨_, rfl⟩, calm _⟩
  · exact absurd none some

end Trader.Aims

end Deliberation.Market
