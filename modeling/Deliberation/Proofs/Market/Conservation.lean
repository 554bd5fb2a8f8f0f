import Deliberation.Proofs.Market.Runs

/-!
# No trade is lost or invented

The ledger of the traders balances before and after every cycle, so what is sold was bought, and what
is bought was offered. Whoever has mail is scheduled; so when nobody is, nothing waits, and what was
offered was sold.
-/

namespace Deliberation.Market

namespace Population.Trades

variable {population : Population} {settings : ExecutorSettings} {codec : Option Codec}
  {world : World vocabulary} {history : History}

/-- Between ticks the world consists of the traders, and their ledger balances. -/
theorem hosted (noDeadline : settings.unitTimeout = none)
    (faithful : ∀ carrier, codec = some carrier → Faithful carrier)
    (small : population.traders ≤ largestWord) (word : population.maxPrice ≤ largestWord)
    (trades : population.Trades settings codec world history) :
    Reachable settings (.new codec) world ∧ ∃ traders, Hosts world population.traders traders ∧
      Ledger population traders 0 [] history := by
  obtain ⟨reachable, traders, standing, -⟩ := trades.stands noDeadline faithful small word
  exact ⟨reachable, traders, standing.hosts, standing.ledger⟩

/-- Nothing waits for traders of which none is scheduled. -/
theorem calm_mail {traders : Nat → Trader} (noDeadline : settings.unitTimeout = none)
    (reachable : Reachable settings (.new codec) world)
    (hosts : Hosts world population.traders traders) (calm : world.executor.schedule = [])
    (measure : AgentId → Errand → Multiset Trade) :
    waiting measure population.traders traders = 0 := by
  refine Finset.sum_eq_zero fun index member => ?_
  have mail := (silent noDeadline reachable hosts calm (Finset.mem_range.mp member)).1
  unfold Trader.waiting
  rw [mail]
  rfl

/-- No trade is lost, doubled or invented, in whatever order the traders run in each tick. Every sale
that was booked is a purchase that was made, and every purchase is an offer to a trader whose
reservation price covers it. When no trader is scheduled any more, the three are the same. -/
theorem conserved (noDeadline : settings.unitTimeout = none)
    (faithful : ∀ carrier, codec = some carrier → Faithful carrier)
    (small : population.traders ≤ largestWord) (word : population.maxPrice ≤ largestWord)
    (trades : population.Trades settings codec world history) :
    (history.sold : Multiset Trade) ≤ history.bought ∧
    (history.bought : Multiset Trade) ≤ population.offered history ∧
    (world.executor.schedule = [] →
      (history.sold : Multiset Trade) = history.bought ∧
      (history.bought : Multiset Trade) = population.offered history) := by
  obtain ⟨reachable, traders, hosts, ledger⟩ := trades.hosted noDeadline faithful small word
  have sales : (history.bought : Multiset Trade) =
      history.sold + waiting Errand.sale population.traders traders :=
    ledger.sales.trans (add_zero _)
  have purchases : (population.offered history : Multiset Trade) =
      history.bought + waiting Errand.purchase population.traders traders :=
    ledger.purchases.trans (add_zero _)
  refine ⟨?_, ?_, fun calm => ?_⟩
  · rw [sales]
    exact Multiset.le_add_right _ _
  · rw [purchases]
    exact Multiset.le_add_right _ _
  · have nothing := calm_mail noDeadline reachable hosts calm
    rw [nothing, add_zero] at sales purchases
    exact ⟨sales.symm, purchases.symm⟩

/-- Two traders trade until neither is scheduled. Four trades were offered, and all were booked. -/
theorem conserved_pair :
    let pair : Population := { traders := 2, salesTarget := 1, maxPrice := 10, seed := 0 }
    let settings : ExecutorSettings := { poolSize := 2, seed := none, unitTimeout := none }
    ∃ world history, pair.afterTicks settings none 5 = some (world, history) ∧
      world.executor.schedule = [] ∧ history.sold.length = 4 ∧
      (history.sold : Multiset Trade) = history.bought ∧
      (history.bought : Multiset Trade) = pair.offered history := by
  intro pair settings
  have counted : (pair.afterTicks settings none 5).map (fun (world, history) =>
      (world.executor.schedule.isEmpty, history.sold.length)) = some (true, 4) := by
    decide +kernel
  obtain ⟨world, history, ran, trades⟩ :=
    @of_ticks pair settings none rfl (fun _ present => nomatch present) (by decide) (by decide) 5
  rw [ran, Option.map_some, Option.some_inj, Prod.mk.injEq] at counted
  have calm := List.isEmpty_iff.mp counted.1
  have balance := @conserved pair settings none world history rfl
    (fun _ present => nomatch present) (by decide) (by decide) trades
  exact ⟨world, history, ran, calm, counted.2, balance.2.2 calm⟩

end Population.Trades

end Deliberation.Market
