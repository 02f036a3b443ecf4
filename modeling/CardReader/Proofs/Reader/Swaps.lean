import CardReader.Proofs.Reader.Cards
import CardReader.Promag.Device
import Mathlib.Tactic.Common

namespace CardReader

open Run

variable {σ δ α β : Type}

namespace Station

/-- No card is inserted while another one is yet to be told. -/
def Exclusive (s : Station σ δ) : Prop := s.reader.inserted = none ∨ s.reader.pending = none

theorem Exclusive.pending_eq {s : Station σ δ} (h : s.Exclusive) {chip : Chip}
    (hinserted : s.reader.inserted = some chip) : s.reader.pending = none := by
  obtain hnone | hnone := h
  · rw [hnone] at hinserted
    contradiction
  · exact hnone

theorem Mindful.exclusive {s t : Station σ δ} (h : Mindful s t) (hs : s.Exclusive) :
    t.Exclusive := by
  unfold Exclusive
  rw [h.inserted_eq, h.pending_eq]
  exact hs

end Station

namespace Reader

open Station

variable [Link σ] [Driver δ]

/-- The looks of a poll, in order: what each one saw, or how it failed. -/
def glances (judge : Option Chip → Option β) (deadline : Option Nat) :
    Nat → Station σ δ → List (Except ReaderError (Option Chip))
  | 0, _ => []
  | looks + 1, s =>
    match look s with
    | .error e _ => [.error e]
    | .ok seen t =>
      .ok seen ::
        match judge seen with
        | some _ => []
        | none =>
          match rest deadline t with
          | .ok true u => glances judge deadline looks u
          | _ => []

/-- The same of a poll for a time. -/
def glancesFor (judge : Option Chip → Option β) (wait patience : Nat) (s : Station σ δ) :
    List (Except ReaderError (Option Chip)) :=
  if wait = 0 then glances judge none patience s
  else glances judge (some (s.world.clock + wait))
    (looksWithin wait (Driver.pollInterval s.reader.driver) patience)
    (s.reckon (s.world.clock + wait))

/-- What the last look says; without a look nothing is settled. -/
def verdict (judge : Option Chip → Option β) (looks : List (Except ReaderError (Option Chip))) :
    Except ReaderError (Option β) :=
  match looks.getLast? with
  | none => .ok none
  | some last => last.map judge

omit [Link σ] [Driver δ] in
theorem verdict_some {judge : Option Chip → Option β}
    {looks : List (Except ReaderError (Option Chip))} {settled : β}
    (h : verdict judge looks = .ok (some settled)) :
    ∃ seen, looks.getLast? = some (.ok seen) ∧ judge seen = some settled := by
  unfold verdict at h
  cases hlook : looks.getLast? with
  | none =>
    rw [hlook] at h
    injection h with hnone
    contradiction
  | some last =>
    rw [hlook] at h
    cases last with
    | error e => contradiction
    | ok seen => exact ⟨seen, rfl, Except.ok.inj h⟩

/-- A poll ends as its last look says. -/
theorem outcome_poll (judge : Option Chip → Option β) (deadline : Option Nat) (looks : Nat)
    (s : Station σ δ) :
    outcome (poll judge deadline looks s) = verdict judge (glances judge deadline looks s) := by
  induction looks generalizing s with
  | zero => rfl
  | succ looks ih =>
    unfold poll glances
    cases hlook : (look s : EStateM.Result ReaderError (Station σ δ) (Option Chip)) with
    | error e t =>
      rw [bind_error hlook]
      rfl
    | ok seen t =>
      rw [bind_ok hlook]
      dsimp only
      cases hjudge : judge seen with
      | some settled => simp [outcome, verdict, Except.map, hjudge]
      | none =>
        -- a look that settles nothing counts for no more than no look at all
        have hdone : verdict judge [.ok seen] = verdict judge [] := by
          simp [verdict, Except.map, hjudge]
        dsimp only
        cases hrest : (rest deadline t : EStateM.Result ReaderError (Station σ δ) Bool) with
        | error e u => simp [rest] at hrest
        | ok again u =>
          rw [bind_ok hrest]
          cases again with
          | false => exact hdone.symm
          | true =>
            dsimp only
            rw [if_pos rfl, ih u]
            cases glances judge deadline looks u with
            | nil => exact hdone.symm
            | cons next later => simp only [verdict, List.getLast?_cons_cons]

/-- No look but the last one fails or settles what is waited for. -/
theorem glances_unsettled (judge : Option Chip → Option β) (deadline : Option Nat) (looks : Nat)
    (s : Station σ δ) :
    ∀ g ∈ (glances judge deadline looks s).dropLast, ∃ seen, g = .ok seen ∧ judge seen = none := by
  induction looks generalizing s with
  | zero => simp [glances]
  | succ looks ih =>
    unfold glances
    cases look s with
    | error e t => simp
    | ok seen t =>
      dsimp only
      cases hjudge : judge seen with
      | some settled => simp
      | none =>
        dsimp only
        cases rest deadline t with
        | error e u => simp
        | ok again u =>
          cases again with
          | false => simp
          | true =>
            have hnext := ih u
            dsimp only
            cases hglances : glances judge deadline looks u with
            | nil => simp
            | cons next later =>
              intro g hg
              rw [hglances] at hnext
              rw [List.dropLast_cons_cons] at hg
              obtain rfl | hg := List.mem_cons.mp hg
              · exact ⟨seen, rfl, hjudge⟩
              · exact hnext g hg

theorem outcome_pollFor (judge : Option Chip → Option β) (wait patience : Nat)
    (s : Station σ δ) :
    outcome (pollFor judge wait patience s) = verdict judge (glancesFor judge wait patience s) := by
  rw [pollFor_eq]
  unfold glancesFor
  by_cases hwait : wait = 0
  · rw [if_pos hwait, if_pos hwait]
    exact outcome_poll ..
  · rw [if_neg hwait, if_neg hwait]
    exact outcome_poll ..

/-- A look that settles what is waited for is the last one. -/
theorem glancesFor_last {judge : Option Chip → Option β} {wait patience : Nat}
    {s : Station σ δ} {seen : Option Chip} {settled : β}
    (hseen : .ok seen ∈ glancesFor judge wait patience s) (hjudge : judge seen = some settled) :
    (glancesFor judge wait patience s).getLast? = some (.ok seen) := by
  have hdropped : .ok seen ∉ (glancesFor judge wait patience s).dropLast := by
    intro hmem
    have hunsettled : ∃ other, (.ok seen : Except ReaderError (Option Chip)) = .ok other ∧
        judge other = none := by
      unfold glancesFor at hmem
      split at hmem
      · exact glances_unsettled _ _ _ _ _ hmem
      · exact glances_unsettled _ _ _ _ _ hmem
    obtain ⟨other, hother, hnone⟩ := hunsettled
    rw [← Except.ok.inj hother, hjudge] at hnone
    contradiction
  have hne := List.ne_nil_of_mem hseen
  rw [← List.dropLast_concat_getLast hne, List.mem_append, List.mem_singleton] at hseen
  rw [List.getLast?_eq_some_getLast hne]
  obtain hmem | hlast := hseen
  · contradiction
  · rw [← hlast]

/-- A wait has one look at least, unless it is to have none. -/
theorem glancesFor_ne_nil (judge : Option Chip → Option β) {wait patience : Nat}
    (h : wait ≠ 0 ∨ patience ≠ 0) (s : Station σ δ) : glancesFor judge wait patience s ≠ [] := by
  have hsome : ∀ (deadline : Option Nat) {looks : Nat} (t : Station σ δ), looks ≠ 0 →
      glances judge deadline looks t ≠ [] := by
    intro deadline looks t hlooks
    obtain ⟨looks, rfl⟩ := Nat.exists_eq_succ_of_ne_zero hlooks
    unfold glances
    split <;> simp
  unfold glancesFor
  by_cases hwait : wait = 0
  · rw [if_pos hwait]
    exact hsome _ _ (h.resolve_left (not_not_intro hwait))
  · rw [if_neg hwait]
    exact hsome _ _ (looksWithin_ne_zero _ _ _)

omit [Link σ] [Driver δ] in
theorem outcome_scanning (shown : Bool) (op : Op σ δ β) (s : Station σ δ) :
    outcome (scanning shown op s) = outcome (op (entered shown s)) := by
  unfold scanning entered
  dsimp only
  cases op _ with
  | ok b t => rfl
  | error e t => rfl

def insertionGlances (wait patience : Nat) (s : Station σ δ) :
    List (Except ReaderError (Option Chip)) :=
  glancesFor id wait patience (entered s.reader.settings.seeInsertionLog s)

def removalGlances (inserted : Chip) (wait patience : Nat) (s : Station σ δ) :
    List (Except ReaderError (Option Chip)) :=
  glancesFor (Removal.judge inserted) wait patience (entered s.reader.settings.seeRemovalLog s)

theorem waitInsertion_pending (wait patience : Nat) {s : Station σ δ} {chip : Chip}
    (hc : s.reader.isConnected) (hpending : s.reader.pending = some chip) :
    waitInsertion wait patience s =
      .ok (some chip) (s.onReader ({ · with pending := none, inserted := some chip })) := by
  rw [waitInsertion_eq wait patience hc, hpending]

/-- With no card to tell, a wait for a card ends as its last look says. -/
theorem outcome_waitInsertion (wait patience : Nat) {s : Station σ δ}
    (hc : s.reader.isConnected) (hpending : s.reader.pending = none) :
    outcome (waitInsertion wait patience s) = verdict id (insertionGlances wait patience s) := by
  have hscan := outcome_scanning s.reader.settings.seeInsertionLog (pollFor id wait patience) s
  rw [outcome_pollFor] at hscan
  unfold insertionGlances
  rw [← hscan, waitInsertion_eq wait patience hc, hpending]
  cases scanning s.reader.settings.seeInsertionLog (pollFor id wait patience) s with
  | error e t => rfl
  | ok seen t =>
    cases seen with
    | none => rfl
    | some chip => rfl

/-- A wait for a card to go ends as its last look says. -/
theorem outcome_waitRemoval (wait patience : Nat) {s : Station σ δ} {inserted : Chip}
    (hc : s.reader.isConnected) (hinserted : s.reader.inserted = some inserted) :
    outcome (waitRemoval wait patience s) =
      (verdict (Removal.judge inserted) (removalGlances inserted wait patience s)).map
        Option.isSome := by
  have hscan := outcome_scanning s.reader.settings.seeRemovalLog
    (pollFor (Removal.judge inserted) wait patience) s
  rw [outcome_pollFor] at hscan
  unfold removalGlances
  rw [← hscan, waitRemoval_eq wait patience hc, hinserted]
  dsimp only
  cases scanning s.reader.settings.seeRemovalLog
      (pollFor (Removal.judge inserted) wait patience) s with
  | error e t => rfl
  | ok removal t =>
    cases removal with
    | none => rfl
    | some removal => rfl

theorem waitInsertion_apart (wait patience : Nat) {s : Station σ δ}
    (hc : ¬ s.reader.isConnected) : waitInsertion wait patience s = .error .notConnected s := by
  unfold waitInsertion
  rw [get_bind_run, if_pos hc]
  rfl

theorem waitRemoval_apart (wait patience : Nat) {s : Station σ δ}
    (hc : ¬ s.reader.isConnected) : waitRemoval wait patience s = .error .notConnected s := by
  unfold waitRemoval
  rw [get_bind_run, if_pos hc]
  rfl

theorem waitRemoval_none (wait patience : Nat) {s : Station σ δ} (hc : s.reader.isConnected)
    (hnone : s.reader.inserted = none) : waitRemoval wait patience s = .ok true s := by
  rw [waitRemoval_eq wait patience hc, hnone]

/-- A wait for a card that returns none remembers the same cards. -/
theorem waitInsertion_mindful {wait patience : Nat} {s : Station σ δ}
    (h : ∀ chip, outcome (waitInsertion wait patience s) ≠ .ok (some chip)) :
    Mindful s (after (waitInsertion wait patience s)) := by
  by_cases hc : s.reader.isConnected
  · have hscan := wait_mindful s.reader.settings.seeInsertionLog id wait patience s
    rw [waitInsertion_eq wait patience hc] at h ⊢
    cases hpending : s.reader.pending with
    | some chip =>
      rw [hpending] at h
      exact absurd rfl (h chip)
    | none =>
      rw [hpending] at h
      dsimp only at h ⊢
      cases hrun : scanning s.reader.settings.seeInsertionLog (pollFor id wait patience) s with
      | error e t =>
        rw [hrun] at hscan
        exact hscan.1
      | ok seen t =>
        rw [hrun] at hscan h
        cases seen with
        | none => exact hscan.1
        | some chip => exact absurd rfl (h chip)
  · rw [waitInsertion_apart wait patience hc]
    exact closed_mindful.refl s

/-- A wait for a card to go that does not see it go remembers the same cards. -/
theorem waitRemoval_mindful {wait patience : Nat} {s : Station σ δ}
    (h : outcome (waitRemoval wait patience s) ≠ .ok true) :
    Mindful s (after (waitRemoval wait patience s)) := by
  by_cases hc : s.reader.isConnected
  · rw [waitRemoval_eq wait patience hc] at h ⊢
    cases hinserted : s.reader.inserted with
    | none => exact closed_mindful.refl s
    | some inserted =>
      have hscan := wait_mindful s.reader.settings.seeRemovalLog (Removal.judge inserted) wait
        patience s
      rw [hinserted] at h
      dsimp only at h ⊢
      cases hrun : scanning s.reader.settings.seeRemovalLog
          (pollFor (Removal.judge inserted) wait patience) s with
      | error e t =>
        rw [hrun] at hscan
        exact hscan.1
      | ok removal t =>
        rw [hrun] at hscan h
        cases removal with
        | none => exact hscan.1
        | some removal => exact absurd rfl h
  · rw [waitRemoval_apart wait patience hc]
    exact closed_mindful.refl s

theorem connected_of_waitRemoval {wait patience : Nat} {s t : Station σ δ} {gone : Bool}
    (h : waitRemoval wait patience s = .ok gone t) : s.reader.isConnected := by
  by_contra hc
  rw [waitRemoval_apart wait patience hc] at h
  contradiction

omit [Link σ] [Driver δ] in
/-- A removal is settled by a look that saw no card, or a card with another identifier. -/
theorem Removal.judge_some {inserted : Chip} {seen : Option Chip} {removal : Removal}
    (h : Removal.judge inserted seen = some removal) :
    removal.chip? = seen ∧ ∀ chip, seen = some chip → chip.identifier ≠ inserted.identifier := by
  unfold Removal.judge at h
  cases seen with
  | none =>
    rw [← Option.some.inj h]
    exact ⟨rfl, nofun⟩
  | some chip =>
    dsimp only at h
    by_cases hsame : chip.same inserted
    · rw [if_pos hsame] at h
      contradiction
    · rw [if_neg hsame] at h
      rw [← Option.some.inj h]
      refine ⟨rfl, fun other hother hid => hsame ?_⟩
      rw [Option.some.inj hother]
      exact beq_iff_eq.mpr hid

omit [Link σ] [Driver δ] in
theorem Removal.judge_replaced {inserted chip : Chip}
    (h : chip.identifier ≠ inserted.identifier) :
    Removal.judge inserted (some chip) = some (.replaced chip) :=
  if_neg fun hsame => h (beq_iff_eq.mp hsame)

/-- A card is gone only when the last look saw none or another one; that one is kept. -/
theorem waitRemoval_gone {wait patience : Nat} {s t : Station σ δ} {inserted : Chip}
    (hs : s.Exclusive) (hinserted : s.reader.inserted = some inserted)
    (h : waitRemoval wait patience s = .ok true t) :
    (removalGlances inserted wait patience s).getLast? = some (.ok t.reader.pending) ∧
      (∀ chip, t.reader.pending = some chip → chip.identifier ≠ inserted.identifier) ∧
      t.reader.inserted = none := by
  have hc := connected_of_waitRemoval h
  have hverdict := outcome_scanning s.reader.settings.seeRemovalLog
    (pollFor (Removal.judge inserted) wait patience) s
  have hscan := wait_mindful s.reader.settings.seeRemovalLog (Removal.judge inserted) wait
    patience s
  rw [outcome_pollFor] at hverdict
  change _ = verdict _ (removalGlances inserted wait patience s) at hverdict
  rw [waitRemoval_eq wait patience hc, hinserted] at h
  dsimp only at h
  cases hrun : scanning s.reader.settings.seeRemovalLog
      (pollFor (Removal.judge inserted) wait patience) s with
  | error e u =>
    rw [hrun] at h
    contradiction
  | ok removal u =>
    rw [hrun] at h hverdict hscan
-- Nothing is kept next to an inserted card, so what is kept afterwards is what the look saw.
    have hpending : u.reader.pending = none :=
      hscan.1.pending_eq.trans (hs.pending_eq hinserted)
    cases removal with
    | none =>
      injection h with hfalse _
      contradiction
    | some removal =>
      obtain ⟨seen, hlast, hjudge⟩ := verdict_some hverdict.symm
      obtain ⟨hkept, hother⟩ := Removal.judge_some hjudge
      injection h with _ ht
      have hseen : t.reader.pending = seen := by
        rw [← ht]
        change removal.chip?.or u.reader.pending = seen
        rw [hpending, hkept, Option.or_none]
      rw [hseen]
      refine ⟨hlast, hother, ?_⟩
      rw [← ht]
      rfl

/-- A card that a look sees in the place of the inserted one is kept. -/
theorem waitRemoval_replaced {wait patience : Nat} {s : Station σ δ} {inserted chip : Chip}
    (hs : s.Exclusive) (hc : s.reader.isConnected)
    (hinserted : s.reader.inserted = some inserted)
    (hseen : .ok (some chip) ∈ removalGlances inserted wait patience s)
    (hother : chip.identifier ≠ inserted.identifier) :
    ∃ t, waitRemoval wait patience s = .ok true t ∧ t.reader.inserted = none ∧
      t.reader.pending = some chip := by
  have hlast := glancesFor_last hseen (Removal.judge_replaced hother)
  change (removalGlances inserted wait patience s).getLast? = _ at hlast
  have hends := outcome_waitRemoval wait patience hc hinserted
  unfold verdict at hends
  rw [hlast] at hends
  change _ = Except.ok (Removal.judge inserted (some chip)).isSome at hends
  rw [Removal.judge_replaced hother] at hends
  cases hrun : waitRemoval wait patience s with
  | error e t =>
    rw [hrun] at hends
    contradiction
  | ok gone t =>
    rw [hrun] at hends
    have hgone : gone = true := Except.ok.inj hends
    rw [hgone] at hrun
    obtain ⟨hlook, -, hnone⟩ := waitRemoval_gone hs hinserted hrun
    rw [hlast] at hlook
    refine ⟨t, by rw [hgone], hnone, ?_⟩
    exact (Except.ok.inj (Option.some.inj hlook)).symm

/-- Once a card is told, no other one is left to tell. -/
theorem waitInsertion_told {wait patience : Nat} {s t : Station σ δ} {chip : Chip}
    (h : waitInsertion wait patience s = .ok (some chip) t) : t.reader.pending = none := by
  by_cases hc : s.reader.isConnected
  · rw [waitInsertion_eq wait patience hc] at h
    cases hpending : s.reader.pending with
    | some old =>
      rw [hpending] at h
      injection h with _ ht
      rw [← ht]
      rfl
    | none =>
      rw [hpending] at h
      dsimp only at h
      split at h
      · contradiction
      · injection h with hnone _
        contradiction
      · rename_i seen u hscan
        obtain ⟨hsame, -⟩ := (wait_mindful _ _ wait patience).of_ok hscan
        injection h with _ ht
        rw [← ht]
        exact hsame.pending_eq.trans hpending
  · rw [waitInsertion_apart wait patience hc] at h
    contradiction

theorem exclusive_waitInsertion (wait patience : Nat) {s : Station σ δ} (hs : s.Exclusive) :
    (after (waitInsertion wait patience s)).Exclusive := by
  by_cases hreturned : ∃ chip, outcome (waitInsertion wait patience s) = .ok (some chip)
  · obtain ⟨chip, hreturned⟩ := hreturned
    cases hrun : waitInsertion wait patience s with
    | error e t =>
      rw [hrun] at hreturned
      contradiction
    | ok returned t =>
      rw [hrun] at hreturned
      have htold : returned = some chip := Except.ok.inj hreturned
      rw [htold] at hrun
      exact .inr (waitInsertion_told hrun)
  · apply (waitInsertion_mindful _).exclusive hs
    intro chip hchip
    exact hreturned ⟨chip, hchip⟩

/-- A card in the place of another one is kept only when that other one is taken out. -/
theorem exclusive_waitRemoval (wait patience : Nat) {s : Station σ δ} (hs : s.Exclusive) :
    (after (waitRemoval wait patience s)).Exclusive := by
  cases hrun : waitRemoval wait patience s with
  | error e t =>
    have hsame : Mindful s (after (waitRemoval wait patience s)) :=
      waitRemoval_mindful (by rw [hrun]; exact nofun)
    rw [hrun] at hsame
    exact hsame.exclusive hs
  | ok gone t =>
    cases gone with
    | false =>
      have hsame : Mindful s (after (waitRemoval wait patience s)) := by
        apply waitRemoval_mindful
        rw [hrun]
        simp [outcome]
      rw [hrun] at hsame
      exact hsame.exclusive hs
    | true =>
      cases hinserted : s.reader.inserted with
      | some inserted => exact .inl (waitRemoval_gone hs hinserted hrun).2.2
      | none =>
        have hc := connected_of_waitRemoval hrun
        rw [waitRemoval_none wait patience hc hinserted] at hrun
        injection hrun with _ ht
        rw [← ht]
        exact hs

namespace Operation

omit [Link σ] [Driver δ] in
theorem after_ignored (op : Op σ δ α) (s : Station σ δ) :
    after ((do let _ ← op : Op σ δ Unit) s) = after (op s) := by
  change after ((op >>= fun _ => pure ()) s) = after (op s)
  cases hrun : op s with
  | ok a t =>
    rw [bind_ok hrun]
    rfl
  | error e t =>
    rw [bind_error hrun]
    rfl

/-- One operation, also one that fails. -/
theorem run_exclusive (op : Operation σ δ) {s : Station σ δ} (hs : s.Exclusive) :
    (after (op.run s)).Exclusive := by
  cases op with
  | connect => exact (connect_mindful s).exclusive hs
  | disconnect =>
    have hnone : (after (disconnect.run s)).remembered = [] := (disconnect_forgets s).2
    left
    by_contra hsome
    obtain ⟨chip, hchip⟩ := Option.ne_none_iff_exists'.mp hsome
    have hmem := mem_remembered.mpr (.inl hchip)
    rw [hnone] at hmem
    contradiction
  | waitInsertion wait patience =>
    change (after ((do let _ ← Reader.waitInsertion wait patience : Op σ δ Unit) s)).Exclusive
    rw [after_ignored]
    exact exclusive_waitInsertion wait patience hs
  | waitRemoval wait patience =>
    change (after ((do let _ ← Reader.waitRemoval wait patience : Op σ δ Unit) s)).Exclusive
    rw [after_ignored]
    exact exclusive_waitRemoval wait patience hs
  | command act => exact (use_mindful act s).1.exclusive hs
  | endSession act => exact (endSession_mindful act s).exclusive hs
  | adjust f => exact hs
  | incident f => exact hs
  | elsewhere f => exact hs

theorem runs_exclusive {s : Station σ δ} (hs : s.Exclusive) (ops : List (Operation σ δ)) :
    (runs s ops).Exclusive := by
  induction ops generalizing s with
  | nil => exact hs
  | cons op ops ih => exact ih (op.run_exclusive hs)

omit [Link σ] [Driver δ] in
/-- Neither the end of the connection nor a wait that would tell the next card. -/
def Retains : Operation σ δ → Prop
  | disconnect => False
  | waitInsertion _ _ => False
  | _ => True

/-- Without an inserted card, nothing else changes what is remembered. -/
theorem run_retains {op : Operation σ δ} (h : op.Retains) {s : Station σ δ}
    (hinserted : s.reader.inserted = none) : Mindful s (after (op.run s)) := by
  cases op with
  | connect => exact connect_mindful s
  | disconnect => exact absurd h id
  | waitInsertion wait patience => exact absurd h id
  | waitRemoval wait patience =>
    change Mindful s (after ((do let _ ← Reader.waitRemoval wait patience : Op σ δ Unit) s))
    rw [after_ignored]
    by_cases hc : s.reader.isConnected
    · rw [waitRemoval_none wait patience hc hinserted]
      exact closed_mindful.refl s
    · rw [waitRemoval_apart wait patience hc]
      exact closed_mindful.refl s
  | command act => exact (use_mindful act s).1
  | endSession act => exact endSession_mindful act s
  | adjust f => exact ⟨rfl, rfl⟩
  | incident f => exact ⟨rfl, rfl⟩
  | elsewhere f => exact ⟨rfl, rfl⟩

/-- With no card inserted, one that is yet to be told stays so. -/
theorem runs_retain {s : Station σ δ} (hinserted : s.reader.inserted = none)
    {ops : List (Operation σ δ)} (h : ∀ op ∈ ops, op.Retains) : Mindful s (runs s ops) := by
  induction ops generalizing s with
  | nil => exact closed_mindful.refl s
  | cons op ops ih =>
    have hfirst := run_retains (h op List.mem_cons_self) hinserted
    have hnone := hfirst.inserted_eq.trans hinserted
    have hrest := ih hnone fun later hlater => h later (List.mem_cons_of_mem op hlater)
    exact closed_mindful.trans hfirst hrest

end Operation

/-- A wait for a card looks for one, and ends as its last look says. -/
def Polls (s : Station σ δ) : Prop :=
  ∀ wait patience, wait ≠ 0 ∨ patience ≠ 0 → insertionGlances wait patience s ≠ [] ∧
    outcome (waitInsertion wait patience s) = verdict id (insertionGlances wait patience s)

/-- What a reader tells about its cards from here on. -/
structure Truthful (s : Station σ δ) : Prop where
  exclusive : s.Exclusive
  /-- A card that is returned is the inserted one. -/
  returned : ∀ {wait patience chip t}, waitInsertion wait patience s = .ok (some chip) t →
    t.reader.inserted = some chip
  /-- A wait that returns no card changes no card. -/
  none_returned : ∀ {wait patience},
    (∀ chip, outcome (waitInsertion wait patience s) ≠ .ok (some chip)) →
      Mindful s (after (waitInsertion wait patience s))
  none_gone : ∀ {wait patience}, outcome (waitRemoval wait patience s) ≠ .ok true →
    Mindful s (after (waitRemoval wait patience s))
  /-- A card is gone only when the last look saw none, or a card with another identifier. -/
  gone : ∀ {wait patience inserted t}, s.reader.inserted = some inserted →
    waitRemoval wait patience s = .ok true t →
      (removalGlances inserted wait patience s).getLast? = some (.ok t.reader.pending) ∧
        (∀ chip, t.reader.pending = some chip → chip.identifier ≠ inserted.identifier) ∧
        t.reader.inserted = none
  /-- With no card yet to be told, a wait looks for one. -/
  polls : s.reader.isConnected → s.reader.pending = none → Polls s
  /-- A card that took the place is told by the next wait, with no look; then looks go on. -/
  replaced : ∀ {wait patience inserted chip}, s.reader.isConnected →
    s.reader.inserted = some inserted →
    .ok (some chip) ∈ removalGlances inserted wait patience s →
    chip.identifier ≠ inserted.identifier →
    ∃ t, waitRemoval wait patience s = .ok true t ∧
      ∀ ops, (∀ op ∈ ops, op.Retains) → (Operation.runs t ops).reader.isConnected →
        let told := (Operation.runs t ops).onReader
          ({ · with pending := none, inserted := some chip })
        (∀ wait patience,
          waitInsertion wait patience (Operation.runs t ops) = .ok (some chip) told) ∧
          Polls told

theorem polls {s : Station σ δ} (hc : s.reader.isConnected) (hpending : s.reader.pending = none) :
    Polls s := by
  intro wait patience h
  exact ⟨glancesFor_ne_nil id h _, outcome_waitInsertion wait patience hc hpending⟩

theorem Truthful.of_exclusive {s : Station σ δ} (hs : s.Exclusive) : Truthful s where
  exclusive := hs
  returned := waitInsertion_inserted
  none_returned := waitInsertion_mindful
  none_gone := waitRemoval_mindful
  gone := waitRemoval_gone hs
  polls := Reader.polls
  replaced := by
    intro wait patience inserted chip hc hinserted hseen hother
    obtain ⟨t, hgone, hnone, hpending⟩ := waitRemoval_replaced hs hc hinserted hseen hother
    refine ⟨t, hgone, ?_⟩
    intro ops hops hopen
    have hkept := Operation.runs_retain hnone hops
    have hwaiting := hkept.pending_eq.trans hpending
    exact ⟨fun wait patience => waitInsertion_pending wait patience hopen hwaiting,
      Reader.polls hopen rfl⟩

/-- Whatever happened to a reader, it tells of each card once and of none that it did not see. -/
theorem cards_told_once {s₀ : Station σ δ} (hnew : s₀.reader.New) (ops : List (Operation σ δ)) :
    Truthful (Operation.runs s₀ ops) :=
  .of_exclusive (Operation.runs_exclusive (.inl hnew.inserted_eq) ops)

end Reader

/-- A reader in whose field one card takes the place of another one. -/
def swapping : Station ScriptedLink Promag.Device where
  world := {}
  reader := .onLink {}
    { name := "sim0"
      reactions :=
        [.deliver [(0, .chunk [0x02, 0x50, 0x0D])], .deliver [(0, .chunk [0x02, 0x30, 0x41, 0x0D])],
          .deliver [(0, .chunk [0x02, 0x30, 0x41, 0x0D])],
          .deliver [(0, .chunk [0x02, 0x30, 0x42, 0x0D])]] } { dataTimeout := 200 }

theorem cards_told_once_swapping :
    swapping.reader.New ∧
      let s := Reader.Operation.runs swapping [.connect, .waitInsertion 0 1]
      s.reader.inserted = some (Chip.generic [0x0A]) ∧
        ∃ t u, Reader.waitRemoval 0 2 s = .ok true t ∧
          Reader.waitInsertion 0 1 t = .ok (some (Chip.generic [0x0B])) u ∧
          u.world = t.world ∧ Reader.Polls u := by
  have hnew : swapping.reader.New := Reader.new_onLink _ _ _
  have htruthful := Reader.cards_told_once hnew [.connect, .waitInsertion 0 1]
  have hinserted : (Reader.Operation.runs swapping
      [.connect, .waitInsertion 0 1]).reader.isConnected ∧
      (Reader.Operation.runs swapping [.connect, .waitInsertion 0 1]).reader.inserted =
        some (Chip.generic [0x0A]) := by decide +kernel
  have hseen : .ok (some (Chip.generic [0x0B])) ∈ Reader.removalGlances (Chip.generic [0x0A]) 0 2
      (Reader.Operation.runs swapping [.connect, .waitInsertion 0 1]) := by decide +kernel
  have hopen : (after (Reader.waitRemoval 0 2 (Reader.Operation.runs swapping
      [.connect, .waitInsertion 0 1]))).reader.isConnected := by decide +kernel
  obtain ⟨t, hgone, htold⟩ := htruthful.replaced hinserted.1 hinserted.2 hseen (by decide)
  rw [hgone] at hopen
  obtain ⟨hwait, hpolls⟩ := htold [] (fun op hop => absurd hop List.not_mem_nil) hopen
  exact ⟨hnew, hinserted.2, t, _, hgone, hwait 0 1, rfl, hpolls⟩

end CardReader
