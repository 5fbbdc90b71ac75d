import Sluice.Time.Clock
import Mathlib.Data.Int.Order.Basic
import Mathlib.Data.List.Basic
import Mathlib.Data.Nat.Basic
import Mathlib.Order.Lattice
import Mathlib.Tactic.SplitIfs

/-!
# Ticks, instants and what is due first

* `Tick.atOrAfter_le`, `Tick.le_atOrAfter` : the first tick not before an instant, and the instants
  of the ticks around it;
* `Agenda.first?_spec` : the first of the things that are due first is one that is due first.
-/

namespace Sluice

/-! ### Ticks and instants -/

theorem Tick.atOrAfter_le {i : Int} {tick : Nat} (h : i ≤ Tick.instant tick) :
    Tick.atOrAfter i ≤ tick := by
  change i ≤ (tick : Int) * 1000000 at h
  change ((i + 999999) / 1000000).toNat ≤ tick
  omega

theorem Tick.le_atOrAfter {i : Int} {tick : Nat} (h : Tick.instant tick ≤ i) :
    tick ≤ Tick.atOrAfter i := by
  change (tick : Int) * 1000000 ≤ i at h
  change tick ≤ ((i + 999999) / 1000000).toNat
  omega

theorem Tick.lt_atOrAfter {i : Int} {tick : Nat} (h : Tick.instant tick < i) :
    tick < Tick.atOrAfter i := by
  change (tick : Int) * 1000000 < i at h
  change tick < ((i + 999999) / 1000000).toNat
  omega

theorem Tick.atOrAfter_mono {i j : Int} (h : i ≤ j) : Tick.atOrAfter i ≤ Tick.atOrAfter j := by
  change ((i + 999999) / 1000000).toNat ≤ ((j + 999999) / 1000000).toNat
  omega

theorem Tick.le_instant_atOrAfter (i : Int) : i ≤ Tick.instant (Tick.atOrAfter i) := by
  change i ≤ (((i + 999999) / 1000000).toNat : Int) * 1000000
  omega

theorem Tick.lt_instant_of_atOrAfter_lt {i : Int} {tick : Nat} (h : Tick.atOrAfter i < tick) :
    i < Tick.instant tick := by
  change ((i + 999999) / 1000000).toNat < tick at h
  change i < (tick : Int) * 1000000
  omega

theorem Tick.instant_mono {t u : Nat} (h : t ≤ u) : Tick.instant t ≤ Tick.instant u := by
  change (t : Int) * 1000000 ≤ (u : Int) * 1000000
  omega

/-- Where less time is left by a millisecond, or none, there is a tick less to wait for. -/
theorem Tick.atOrAfter_sub_lt {d i j : Int} (hlt : i < d) (h : i + 1000000 ≤ j ∨ d ≤ j) :
    Tick.atOrAfter (d - j) < Tick.atOrAfter (d - i) := by
  change ((d - j + 999999) / 1000000).toNat < ((d - i + 999999) / 1000000).toNat
  omega

/-! ### What is due first -/

namespace Agenda

variable {α κ : Type} [LinearOrder κ] {a b : Agenda α κ} {x : κ × α}

theorem first?_eq_none : first? a = none ↔ a = [] := by
  cases a with
  | nil => exact ⟨fun _ => rfl, fun _ => rfl⟩
  | cons y r =>
    refine ⟨fun h => ?_, nofun⟩
    rw [first?] at h
    split at h
    · split_ifs at h
    · cases h

theorem first?_spec (h : first? a = some x) : x ∈ a ∧ ∀ y ∈ a, x.1 ≤ y.1 := by
  induction a generalizing x with
  | nil => cases h
  | cons z r ih =>
    rw [first?] at h
    cases hr : first? r with
    | none =>
      rw [hr] at h
      cases h
      rw [first?_eq_none.1 hr]
      simp
    | some y =>
      obtain ⟨hmem, hle⟩ := ih hr
      simp only [hr] at h
      split_ifs at h with hlt
      · cases h
        exact ⟨List.mem_cons_of_mem _ hmem, List.forall_mem_cons.2 ⟨le_of_lt hlt, hle⟩⟩
      · cases h
        refine ⟨List.mem_cons_self, List.forall_mem_cons.2 ⟨le_refl _, fun w hw => ?_⟩⟩
        exact le_trans (le_of_not_gt hlt) (hle w hw)

/-- Nothing before it is due as early, and nothing after it is due earlier. -/
theorem first?_append_cons (ha : ∀ y ∈ a, x.1 < y.1) (hb : ∀ y ∈ b, x.1 ≤ y.1) :
    first? (a ++ x :: b) = some x := by
  induction a with
  | nil =>
    rw [List.nil_append, first?]
    split
    · rename_i y hy
      exact if_neg (not_lt_of_ge (hb y (first?_spec hy).1))
    · rfl
  | cons z r ih =>
    rw [List.forall_mem_cons] at ha
    rw [List.cons_append, first?, ih ha.2]
    exact if_pos ha.1

theorem first?_cons (hb : ∀ y ∈ b, x.1 ≤ y.1) : first? (x :: b) = some x :=
  first?_append_cons (a := []) (fun _ h => absurd h List.not_mem_nil) hb

end Agenda

end Sluice
