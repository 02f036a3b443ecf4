import CardReader.Log
import Mathlib.Algebra.Group.Nat.Defs
import Mathlib.Data.Finset.Card
import Mathlib.Data.Finset.Dedup
import Mathlib.Data.Finset.Range
import Mathlib.Data.Finset.SDiff
import Mathlib.Tactic.Common

namespace CardReader

theorem LogSwitch.isEnabled_iff (s : LogSwitch) :
    s.isEnabled = true ↔ s.base = true ∧ s.guards = 0 := by
  rw [isEnabled, Bool.and_eq_true, beq_iff_eq]

namespace LogGuards

/-- The base choice that a step makes. -/
def Step.base? : Step → Option Bool
  | .setBase on => some on
  | .suppress => none
  | .drop _ => none

/-- The last base choice of a history; events are shown before the first one. -/
def lastBase (history : List Step) : Bool := (history.filterMap Step.base?).getLastD true

/-- The guard is handed out, as the one after so many others, and not dropped from then on. -/
def Alive (history : List Step) (guard : Nat) : Prop :=
  ∃ n < history.length, history[n]? = some .suppress ∧
    (history.take n).count .suppress = guard ∧ .drop guard ∉ history.drop (n + 1)

instance (history : List Step) : DecidablePred (Alive history) :=
  fun _ => inferInstanceAs (Decidable (∃ n < history.length, _))

def live (history : List Step) : Finset Nat :=
  {guard ∈ Finset.range (history.count .suppress) | Alive history guard}

section History

variable {history : List Step} {guard : Nat}

/-- A guard alive was alive before the last step, which did not drop it, or it is the new one. -/
theorem alive_concat (s : Step) :
    Alive (history ++ [s]) guard ↔
      (Alive history guard ∧ s ≠ .drop guard) ∨
        (s = .suppress ∧ history.count .suppress = guard) := by
  constructor
  -- The guard was handed out by an earlier step or by the last one.
  · rintro ⟨n, hn, hstep, hcount, hkept⟩
    rw [List.length_append, List.length_singleton] at hn
    obtain hn | rfl := Nat.lt_or_eq_of_le (Nat.le_of_lt_succ hn)
    · rw [List.getElem?_append_left hn] at hstep
      rw [List.take_append_of_le_length hn.le] at hcount
      rw [List.drop_append_of_le_length hn, List.mem_append, not_or] at hkept
      refine .inl ⟨⟨n, hn, hstep, hcount, hkept.1⟩, ?_⟩
      rintro rfl
      exact hkept.2 (List.mem_singleton_self _)
    · rw [List.getElem?_concat_length] at hstep
      rw [List.take_left] at hcount
      exact .inr ⟨Option.some.inj hstep, hcount⟩
  · rintro (⟨⟨n, hn, hstep, hcount, hkept⟩, hs⟩ | ⟨rfl, rfl⟩)
    · refine ⟨n, ?_, ?_, ?_, ?_⟩
      · rw [List.length_append]
        omega
      · rw [List.getElem?_append_left hn, hstep]
      · rw [List.take_append_of_le_length hn.le, hcount]
      · rw [List.drop_append_of_le_length hn, List.mem_append, List.mem_singleton, not_or]
        exact ⟨hkept, hs.symm⟩
    · refine ⟨history.length, ?_, List.getElem?_concat_length, ?_, ?_⟩
      · rw [List.length_append]
        exact Nat.lt_succ_self _
      · rw [List.take_left]
      · rw [List.drop_eq_nil_of_le (by rw [List.length_append, List.length_singleton])]
        exact List.not_mem_nil

theorem not_alive_nil : ¬ Alive [] guard := by
  rintro ⟨n, hn, -⟩
  exact absurd hn (Nat.not_lt_zero n)

/-- Guards are numbered as they are handed out. -/
theorem lt_of_alive (h : Alive history guard) : guard < history.count .suppress := by
  induction history using List.reverseRecOn with
  | nil => exact absurd h not_alive_nil
  | append_singleton history s ih =>
    rw [List.count_append, List.count_singleton]
    obtain ⟨hold, -⟩ | ⟨rfl, rfl⟩ := (alive_concat s).mp h
    · exact Nat.lt_add_right _ (ih hold)
    · exact Nat.lt_succ_self _

theorem mem_live : guard ∈ live history ↔ Alive history guard := by
  rw [live, Finset.mem_filter, Finset.mem_range, and_iff_right_iff_imp]
  exact lt_of_alive

theorem live_setBase (on : Bool) : live (history ++ [.setBase on]) = live history := by
  ext guard
  simp [mem_live, alive_concat]

theorem live_suppress :
    live (history ++ [.suppress]) = insert (history.count .suppress) (live history) := by
  ext guard
  simp [mem_live, alive_concat, or_comm, eq_comm]

theorem live_drop (n : Nat) : live (history ++ [.drop n]) = (live history).erase n := by
  ext guard
  simp [mem_live, alive_concat, and_comm, eq_comm]

theorem card_live_suppress : (live (history ++ [.suppress])).card = (live history).card + 1 := by
  rw [live_suppress, Finset.card_insert_of_notMem]
  exact fun h => Nat.lt_irrefl _ (lt_of_alive (mem_live.mp h))

theorem card_live_drop (h : Alive history guard) :
    (live (history ++ [.drop guard])).card + 1 = (live history).card := by
  rw [live_drop, Finset.card_erase_add_one (mem_live.mpr h)]

theorem lastBase_concat (s : Step) :
    lastBase (history ++ [s]) = s.base?.getD (lastBase history) := by
  rw [lastBase, List.filterMap_append]
  cases hbase : s.base? with
  | none => simp [hbase, lastBase]
  | some on => simp [hbase]

end History

/-- The guard was handed out and has not been dropped. -/
def Holds (g : LogGuards) (guard : Nat) : Prop := g.alive.getD guard false = true

instance (g : LogGuards) : DecidablePred g.Holds :=
  fun guard => inferInstanceAs (Decidable (g.alive.getD guard false = true))

section Step

variable {g : LogGuards} {n : Nat}

theorem step_drop (h : g.Holds n) :
    g.step (.drop n) = ⟨g.switch.release, g.alive.set n false⟩ := if_pos h

theorem step_drop_gone (h : ¬ g.Holds n) : g.step (.drop n) = g := if_neg h

theorem base_step (s : Step) : (g.step s).switch.base = s.base?.getD g.switch.base := by
  cases s with
  | setBase on => rfl
  | suppress => rfl
  | drop n =>
    by_cases h : g.Holds n
    · rw [step_drop h]
      rfl
    · rw [step_drop_gone h]
      rfl

theorem length_step (s : Step) :
    (g.step s).alive.length = g.alive.length + [s].count .suppress := by
  cases s with
  | setBase on => rfl
  | suppress => exact List.length_append
  | drop n =>
    by_cases h : g.Holds n
    · rw [step_drop h]
      exact List.length_set
    · rw [step_drop_gone h]
      rfl

theorem holds_step (s : Step) {guard : Nat} :
    (g.step s).Holds guard ↔
      (g.Holds guard ∧ s ≠ .drop guard) ∨ (s = .suppress ∧ g.alive.length = guard) := by
  cases s with
  | setBase on => simp [step, Holds]
  | suppress =>
    change (g.alive ++ [true]).getD guard false = true ↔ _
    -- The new guard has the number of those handed out before.
    obtain hlt | rfl | hgt := Nat.lt_trichotomy guard g.alive.length
    · simp [Holds, List.getElem?_append_left hlt, hlt.ne']
    · simp
    · simp [Holds, List.getElem?_append_right hgt.le, hgt.le, hgt.ne, Nat.sub_ne_zero_of_lt hgt]
  | drop n =>
    by_cases h : g.Holds n
    · rw [step_drop h]
      by_cases hn : n = guard
      · subst hn
        simp only [Holds, List.getD_eq_getElem?_getD, List.getElem?_set_self']
        cases g.alive[n]? <;> simp
      · simp [Holds, List.getElem?_set_ne hn, hn]
    · rw [step_drop_gone h]
      by_cases hn : n = guard
      · subst hn
        simp [h]
      · simp [hn]

end Step

def run (history : List Step) : LogGuards := history.foldl step {}

theorem run_concat (history : List Step) (s : Step) :
    run (history ++ [s]) = (run history).step s := by
  rw [run, List.foldl_append]
  rfl

/-- The switch and its guards are as a history tells. -/
structure Agrees (history : List Step) (g : LogGuards) : Prop where
  base_eq : g.switch.base = lastBase history
  guards_eq : g.switch.guards = (live history).card
  length_eq : g.alive.length = history.count .suppress
  holds_iff : ∀ guard, g.Holds guard ↔ Alive history guard

namespace Agrees

variable {history : List Step} {g : LogGuards}

theorem initial : Agrees [] {} where
  base_eq := rfl
  guards_eq := rfl
  length_eq := rfl
  holds_iff _ := iff_of_false Bool.false_ne_true not_alive_nil

/-- Dropping a guard that is gone takes none away. -/
theorem live_gone (h : Agrees history g) {n : Nat} (hn : ¬ g.Holds n) :
    live (history ++ [.drop n]) = live history := by
  rw [live_drop]
  exact Finset.erase_eq_of_notMem fun hmem => hn ((h.holds_iff n).mpr (mem_live.mp hmem))

/-- The counter follows each step. -/
theorem guards_step (h : Agrees history g) (s : Step) :
    (g.step s).switch.guards = (live (history ++ [s])).card := by
  cases s with
  | setBase on =>
    rw [live_setBase]
    exact h.guards_eq
  | suppress =>
    rw [card_live_suppress, ← h.guards_eq]
    rfl
  | drop n =>
    by_cases hn : g.Holds n
    · have hcard := card_live_drop ((h.holds_iff n).mp hn)
      rw [step_drop hn]
      change g.switch.guards - 1 = _
      -- The guard itself was counted, so the subtraction does not stop at zero.
      rw [h.guards_eq, ← hcard, Nat.add_sub_cancel]
    · rw [step_drop_gone hn, h.live_gone hn, h.guards_eq]

theorem step (h : Agrees history g) (s : Step) : Agrees (history ++ [s]) (g.step s) where
  base_eq := by rw [base_step, lastBase_concat, h.base_eq]
  guards_eq := h.guards_step s
  length_eq := by rw [length_step, List.count_append, h.length_eq]
  holds_iff guard := by rw [holds_step, alive_concat, h.holds_iff, h.length_eq]

end Agrees

theorem agrees_run (history : List Step) : Agrees history (run history) := by
  induction history using List.reverseRecOn with
  | nil => exact .initial
  | append_singleton history s ih =>
    rw [run_concat]
    exact ih.step s

/-- Guards left after some were dropped are those not named, in whatever order these are named. -/
theorem live_drops (history : List Step) (drops : List Nat) :
    live (history ++ drops.map .drop) = live history \ drops.toFinset := by
  induction drops generalizing history with
  | nil => simp
  | cons n drops ih =>
    rw [List.map_cons, List.append_cons, ih, live_drop, List.toFinset_cons, Finset.sdiff_insert,
      Finset.erase_sdiff_comm]

theorem lastBase_drops (history : List Step) (drops : List Nat) :
    lastBase (history ++ drops.map .drop) = lastBase history := by
  induction drops generalizing history with
  | nil => simp
  | cons n drops ih =>
    rw [List.map_cons, List.append_cons, ih, lastBase_concat]
    rfl

theorem switch_run (history : List Step) :
    (run history).switch = ⟨lastBase history, (live history).card⟩ := by
  have hrun := agrees_run history
  rw [← hrun.base_eq, ← hrun.guards_eq]

/-- The order in which guards are dropped leaves no trace in the switch. -/
theorem switch_drops_perm (history : List Step) {drops drops' : List Nat} (h : drops.Perm drops') :
    (run (history ++ drops.map .drop)).switch = (run (history ++ drops'.map .drop)).switch := by
  rw [switch_run, switch_run, lastBase_drops, lastBase_drops, live_drops, live_drops,
    List.toFinset_eq_of_perm _ _ h]

section Word

variable {width : Nat}

/-- What a step does to the counter where it is a machine word, which wraps around at both ends. -/
def wordStep (g : LogGuards) (count : BitVec width) : Step → BitVec width
  | .setBase _ => count
  | .suppress => count + 1
  | .drop n => if g.Holds n then count - 1 else count

/-- The machine word after some steps. -/
def wordRun (g : LogGuards) (count : BitVec width) : List Step → BitVec width
  | [] => count
  | s :: rest => wordRun (g.step s) (g.wordStep count s) rest

variable {history : List Step} {g : LogGuards}

/-- A machine word goes with the number of live guards, up to wrapping around. -/
theorem wordStep_eq (h : Agrees history g) (s : Step) :
    g.wordStep (BitVec.ofNat width (live history).card) s =
      BitVec.ofNat width (live (history ++ [s])).card := by
  cases s with
  | setBase on =>
    rw [live_setBase]
    rfl
  | suppress =>
    rw [card_live_suppress, BitVec.ofNat_add]
    rfl
  | drop n =>
    by_cases hn : g.Holds n
    · rw [wordStep, if_pos hn, ← card_live_drop ((h.holds_iff n).mp hn), BitVec.ofNat_add]
      exact BitVec.add_sub_cancel _ _
    · rw [wordStep, if_neg hn, h.live_gone hn]

theorem wordRun_eq (h : Agrees history g) (rest : List Step) :
    g.wordRun (BitVec.ofNat width (live history).card) rest =
      BitVec.ofNat width (live (history ++ rest)).card := by
  induction rest generalizing history g with
  | nil => rw [List.append_nil, wordRun]
  | cons s rest ih =>
    rw [wordRun, wordStep_eq h, ih (h.step s), List.append_assoc, List.singleton_append]

/-- A machine word counts the guards as long as those alive fit into it. -/
theorem toNat_wordRun (h : (live history).card < 2 ^ width) :
    (wordRun {} (0 : BitVec width) history).toNat = (run history).switch.guards := by
  have hword : wordRun {} (0 : BitVec width) history = BitVec.ofNat width (live history).card :=
    wordRun_eq .initial history
  rw [hword, switch_run]
  exact Nat.mod_eq_of_lt h

end Word

/-- After every history, and so after every step of one: events are shown if and only if the last
base choice is on and no guard is alive. The counter is the number of guards alive, and a guard
that is dropped takes one away that was there. -/
theorem suppression_in_any_order (history : List Step) :
    ((run history).switch.isEnabled = true ↔
      lastBase history = true ∧ ∀ guard, ¬ Alive history guard) ∧
    (run history).switch.guards = (live history).card ∧
    ∀ guard, Alive history guard →
      (run (history ++ [.drop guard])).switch.guards + 1 = (run history).switch.guards := by
  have hnone : (live history).card = 0 ↔ ∀ guard, ¬ Alive history guard := by
    simp only [Finset.card_eq_zero, Finset.eq_empty_iff_forall_notMem, mem_live]
  rw [LogSwitch.isEnabled_iff, switch_run, hnone]
  refine ⟨Iff.rfl, rfl, ?_⟩
  intro guard halive
  rw [switch_run]
  exact card_live_drop halive

/-- Two guards overlap, and the older one is dropped first. -/
def overlapping : List Step := [.suppress, .suppress, .drop 0]

theorem suppression_in_any_order_overlapping :
    Alive overlapping 1 ∧ (run overlapping).switch.isEnabled = false ∧
      (run overlapping).switch.guards = 1 ∧
      (run (overlapping ++ [.drop 1])).switch.isEnabled = true := by
  have hlast : Alive overlapping 1 := by decide
  have hnone : live (overlapping ++ [.drop 1]) = ∅ := by decide
  obtain ⟨hshown, hguards, -⟩ := suppression_in_any_order overlapping
  obtain ⟨hback, -, -⟩ := suppression_in_any_order (overlapping ++ [.drop 1])
  refine ⟨hlast, ?_, hguards, hback.mpr ⟨rfl, fun guard halive => ?_⟩⟩
  · exact Bool.eq_false_iff.mpr fun h => (hshown.mp h).2 1 hlast
  · have hmem := mem_live.mpr halive
    rw [hnone] at hmem
    exact Finset.notMem_empty guard hmem

end LogGuards

end CardReader
