import CardReader.Bytes.Cursor
import CardReader.Proofs.Run

namespace CardReader.Cursor

theorem take_append (p : Nat) (front rest : Bytes) :
    take front.length ⟨p, front ++ rest⟩ = .ok front ⟨p + front.length, rest⟩ := by
  rw [take, if_neg (by rw [List.length_append]; omega), List.take_left, List.drop_left]

theorem byte_cons (p : Nat) (b : UInt8) (rest : Bytes) :
    byte ⟨p, b :: rest⟩ = .ok b ⟨p + 1, rest⟩ := by
  have h : take 1 ⟨p, b :: rest⟩ = .ok [b] ⟨p + 1, rest⟩ := take_append p [b] rest
  rw [byte, Run.bind_ok h]
  rfl

theorem littleEndian_cons (p : Nat) (lo hi : UInt8) (rest : Bytes) :
    littleEndian ⟨p, lo :: hi :: rest⟩ = .ok (Bytes.word hi lo) ⟨p + 2, rest⟩ := by
  have h : take 2 ⟨p, lo :: hi :: rest⟩ = .ok [lo, hi] ⟨p + 2, rest⟩ := take_append p [lo, hi] rest
  rw [littleEndian, Run.bind_ok h]
  rfl

theorem bigEndian_append (p : Nat) (w : UInt16) (rest : Bytes) :
    bigEndian ⟨p, Bytes.bigEndian w ++ rest⟩ = .ok w ⟨p + 2, rest⟩ := by
  have h : take 2 ⟨p, Bytes.bigEndian w ++ rest⟩ = .ok (Bytes.bigEndian w) ⟨p + 2, rest⟩ :=
    take_append p (Bytes.bigEndian w) rest
  rw [bigEndian, Run.bind_ok h]
  change EStateM.Result.ok (Bytes.word (Bytes.high w) (Bytes.low w)) (Cursor.mk (p + 2) rest) = _
  rw [Bytes.word_high_low]

theorem take_ok {n p : Nat} {data front : Bytes} {c : Cursor}
    (h : take n ⟨p, data⟩ = .ok front c) :
    ∃ rest, data = front ++ rest ∧ front.length = n ∧ c = ⟨p + n, rest⟩ := by
  unfold take at h
  split at h
  · contradiction
  · rename_i hn
    injection h with hfront hc
    refine ⟨data.drop n, ?_, ?_, hc.symm⟩
    · rw [← hfront, List.take_append_drop]
    · rw [← hfront, List.length_take_of_le (Nat.le_of_not_lt hn)]

theorem byte_ok {p : Nat} {data : Bytes} {b : UInt8} {c : Cursor}
    (h : byte ⟨p, data⟩ = .ok b c) : ∃ rest, data = b :: rest ∧ c = ⟨p + 1, rest⟩ := by
  obtain ⟨front, c', hfront, hb⟩ := Run.of_bind_ok h
  obtain ⟨rest, rfl, hone, rfl⟩ := take_ok hfront
  obtain ⟨a, rfl⟩ := List.length_eq_one_iff.mp hone
  injection hb with hab hc
  exact ⟨rest, congrArg (· :: rest) hab, hc.symm⟩

theorem littleEndian_ok {p : Nat} {data : Bytes} {w : UInt16} {c : Cursor}
    (h : littleEndian ⟨p, data⟩ = .ok w c) :
    ∃ lo hi rest, data = lo :: hi :: rest ∧ w = Bytes.word hi lo ∧ c = ⟨p + 2, rest⟩ := by
  obtain ⟨front, c', hfront, hw⟩ := Run.of_bind_ok h
  obtain ⟨rest, rfl, htwo, rfl⟩ := take_ok hfront
  obtain ⟨lo, last, rfl⟩ := List.exists_cons_of_length_eq_add_one htwo
  obtain ⟨hi, rfl⟩ := List.length_eq_one_iff.mp (Nat.succ.inj htwo)
  injection hw with hword hc
  exact ⟨lo, hi, rest, rfl, hword.symm, hc.symm⟩

theorem run_eq_ok_iff {α : Type} {read : Read α} {data : Bytes} {a : α} :
    run read data = .ok a ↔ ∃ c, read (start data) = .ok a c := by
  unfold run
  cases read (start data) with
  | ok a' c => simp
  | error e c => simp

section Fails

open Run

variable {E : FrameError → Prop} (h : ∀ expected actual, E (.tooShort expected actual))
include h

theorem take_fails (n : Nat) : Fails E (take n) := by
  intro c e c' hrun
  unfold take at hrun
  split at hrun
  · injection hrun with he _
    rw [← he]
    exact h _ _
  · contradiction

theorem byte_fails : Fails E byte := Fails.bind (take_fails h 1) fun _ => Fails.pure _

theorem bigEndian_fails : Fails E bigEndian := Fails.bind (take_fails h 2) fun _ => Fails.pure _

theorem littleEndian_fails : Fails E littleEndian :=
  Fails.bind (take_fails h 2) fun _ => Fails.pure _

omit h in
theorem run_fails {α : Type} {read : Read α} (hread : Fails E read) {data : Bytes} {e : FrameError}
    (hrun : run read data = .error e) : E e := by
  unfold run at hrun
  cases hout : read (start data) with
  | ok a c =>
    rw [hout] at hrun
    contradiction
  | error e' c =>
    rw [hout] at hrun
    rw [← Except.error.inj hrun]
    exact hread _ _ _ hout

end Fails

end CardReader.Cursor
